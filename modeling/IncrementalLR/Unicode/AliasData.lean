/-!
# Property and value aliases

The names under which the Unicode 16.0 properties and their values may be written.
-/

namespace IncrementalLR.Unicode

/-- The names of the binary properties. -/
def binaryPropertyAliasText : String := String.join [
  "ASCII_Hex_Digit,AHex Alphabetic,Alpha Bidi_Control,Bidi_C Bidi_Mirrored,Bidi_M Cased ",
  "Case_Ignorable,CI Changes_When_Casefolded,CWCF Changes_When_Casemapped,CWCM ",
  "Changes_When_Lowercased,CWL Changes_When_Titlecased,CWT Changes_When_Uppercased,CWU Dash ",
  "Deprecated,Dep Default_Ignorable_Code_Point,DI Diacritic,Dia Emoji_Modifier_Base,EBase ",
  "Emoji_Component,EComp Emoji_Modifier,EMod Emoji Emoji_Presentation,EPres Extender,Ext ",
  "Extended_Pictographic,ExtPict Grapheme_Base,Gr_Base Grapheme_Extend,Gr_Ext ",
  "Grapheme_Link,Gr_Link Hex_Digit,Hex Hyphen ID_Compat_Math_Continue ID_Compat_Math_Start ",
  "ID_Continue,IDC Ideographic,Ideo ID_Start,IDS IDS_Binary_Operator,IDSB ",
  "IDS_Trinary_Operator,IDST IDS_Unary_Operator,IDSU Join_Control,Join_C ",
  "Logical_Order_Exception,LOE Lowercase,Lower Math Modifier_Combining_Mark,MCM ",
  "Noncharacter_Code_Point,NChar Other_Alphabetic,OAlpha ",
  "Other_Default_Ignorable_Code_Point,ODI Other_Grapheme_Extend,OGr_Ext Other_ID_Continue,OIDC ",
  "Other_ID_Start,OIDS Other_Lowercase,OLower Other_Math,OMath Other_Uppercase,OUpper ",
  "Pattern_Syntax,Pat_Syn Pattern_White_Space,Pat_WS Prepended_Concatenation_Mark,PCM ",
  "Quotation_Mark,QMark Radical Regional_Indicator,RI Soft_Dotted,SD Sentence_Terminal,STerm ",
  "Terminal_Punctuation,Term Unified_Ideograph,UIdeo Uppercase,Upper Variation_Selector,VS ",
  "White_Space,WSpace,space XID_Continue,XIDC XID_Start,XIDS"]

/-- The names of the properties that are queried by value. -/
def valuePropertyAliasText : String := String.join [
  "General_Category,gc Script,sc Script_Extensions,scx Age,age Grapheme_Cluster_Break,GCB ",
  "Word_Break,WB Sentence_Break,SB"]

/-- The names of the general categories and their groups. -/
def categoryAliasText : String := String.join [
  "C,Other Cc,Control,cntrl Cf,Format Cn,Unassigned Co,Private_Use Cs,Surrogate L,Letter ",
  "LC,Cased_Letter Ll,Lowercase_Letter Lm,Modifier_Letter Lo,Other_Letter Lt,Titlecase_Letter ",
  "Lu,Uppercase_Letter M,Mark,Combining_Mark Mc,Spacing_Mark Me,Enclosing_Mark ",
  "Mn,Nonspacing_Mark N,Number Nd,Decimal_Number,digit Nl,Letter_Number No,Other_Number ",
  "P,Punctuation,punct Pc,Connector_Punctuation Pd,Dash_Punctuation Pe,Close_Punctuation ",
  "Pf,Final_Punctuation Pi,Initial_Punctuation Po,Other_Punctuation Ps,Open_Punctuation ",
  "S,Symbol Sc,Currency_Symbol Sk,Modifier_Symbol Sm,Math_Symbol So,Other_Symbol Z,Separator ",
  "Zl,Line_Separator Zp,Paragraph_Separator Zs,Space_Separator"]

/-- The names of the scripts, by four-letter code. -/
def scriptAliasText : String := String.join [
  "Adlm,Adlam Aghb,Caucasian_Albanian Ahom,Ahom Arab,Arabic Armi,Imperial_Aramaic ",
  "Armn,Armenian Avst,Avestan Bali,Balinese Bamu,Bamum Bass,Bassa_Vah Batk,Batak Beng,Bengali ",
  "Bhks,Bhaiksuki Bopo,Bopomofo Brah,Brahmi Brai,Braille Bugi,Buginese Buhd,Buhid Cakm,Chakma ",
  "Cans,Canadian_Aboriginal Cari,Carian Cham,Cham Cher,Cherokee Chrs,Chorasmian ",
  "Copt,Coptic,Qaac Cpmn,Cypro_Minoan Cprt,Cypriot Cyrl,Cyrillic Deva,Devanagari ",
  "Diak,Dives_Akuru Dogr,Dogra Dsrt,Deseret Dupl,Duployan Egyp,Egyptian_Hieroglyphs ",
  "Elba,Elbasan Elym,Elymaic Ethi,Ethiopic Gara,Garay Geor,Georgian Glag,Glagolitic ",
  "Gong,Gunjala_Gondi Gonm,Masaram_Gondi Goth,Gothic Gran,Grantha Grek,Greek Gujr,Gujarati ",
  "Gukh,Gurung_Khema Guru,Gurmukhi Hang,Hangul Hani,Han Hano,Hanunoo Hatr,Hatran Hebr,Hebrew ",
  "Hira,Hiragana Hluw,Anatolian_Hieroglyphs Hmng,Pahawh_Hmong Hmnp,Nyiakeng_Puachue_Hmong ",
  "Hung,Old_Hungarian Ital,Old_Italic Java,Javanese Kali,Kayah_Li Kana,Katakana Kawi,Kawi ",
  "Khar,Kharoshthi Khmr,Khmer Khoj,Khojki Kits,Khitan_Small_Script Knda,Kannada Krai,Kirat_Rai ",
  "Kthi,Kaithi Lana,Tai_Tham Laoo,Lao Latn,Latin Lepc,Lepcha Limb,Limbu Lina,Linear_A ",
  "Linb,Linear_B Lisu,Lisu Lyci,Lycian Lydi,Lydian Mahj,Mahajani Maka,Makasar Mand,Mandaic ",
  "Mani,Manichaean Marc,Marchen Medf,Medefaidrin Mend,Mende_Kikakui Merc,Meroitic_Cursive ",
  "Mero,Meroitic_Hieroglyphs Mlym,Malayalam Modi,Modi Mong,Mongolian Mroo,Mro ",
  "Mtei,Meetei_Mayek Mult,Multani Mymr,Myanmar Nagm,Nag_Mundari Nand,Nandinagari ",
  "Narb,Old_North_Arabian Nbat,Nabataean Newa,Newa Nkoo,Nko Nshu,Nushu Ogam,Ogham ",
  "Olck,Ol_Chiki Onao,Ol_Onal Orkh,Old_Turkic Orya,Oriya Osge,Osage Osma,Osmanya ",
  "Ougr,Old_Uyghur Palm,Palmyrene Pauc,Pau_Cin_Hau Perm,Old_Permic Phag,Phags_Pa ",
  "Phli,Inscriptional_Pahlavi Phlp,Psalter_Pahlavi Phnx,Phoenician Plrd,Miao ",
  "Prti,Inscriptional_Parthian Rjng,Rejang Rohg,Hanifi_Rohingya Runr,Runic Samr,Samaritan ",
  "Sarb,Old_South_Arabian Saur,Saurashtra Sgnw,SignWriting Shaw,Shavian Shrd,Sharada ",
  "Sidd,Siddham Sind,Khudawadi Sinh,Sinhala Sogd,Sogdian Sogo,Old_Sogdian Sora,Sora_Sompeng ",
  "Soyo,Soyombo Sund,Sundanese Sunu,Sunuwar Sylo,Syloti_Nagri Syrc,Syriac Tagb,Tagbanwa ",
  "Takr,Takri Tale,Tai_Le Talu,New_Tai_Lue Taml,Tamil Tang,Tangut Tavt,Tai_Viet Telu,Telugu ",
  "Tfng,Tifinagh Tglg,Tagalog Thaa,Thaana Thai,Thai Tibt,Tibetan Tirh,Tirhuta Tnsa,Tangsa ",
  "Todr,Todhri Toto,Toto Tutg,Tulu_Tigalari Ugar,Ugaritic Vaii,Vai Vith,Vithkuqi ",
  "Wara,Warang_Citi Wcho,Wancho Xpeo,Old_Persian Xsux,Cuneiform Yezi,Yezidi Yiii,Yi ",
  "Zanb,Zanabazar_Square Zinh,Inherited,Qaai Zyyy,Common"]

/-- The names of the Unicode versions. -/
def ageAliasText : String := String.join [
  "1.1,V1_1 2.0,V2_0 2.1,V2_1 3.0,V3_0 3.1,V3_1 3.2,V3_2 4.0,V4_0 4.1,V4_1 5.0,V5_0 5.1,V5_1 ",
  "5.2,V5_2 6.0,V6_0 6.1,V6_1 6.2,V6_2 6.3,V6_3 7.0,V7_0 8.0,V8_0 9.0,V9_0 10.0,V10_0 ",
  "11.0,V11_0 12.0,V12_0 12.1,V12_1 13.0,V13_0 14.0,V14_0 15.0,V15_0 15.1,V15_1 16.0,V16_0"]

/-- The names of the Grapheme_Cluster_Break values. -/
def graphemeBreakAliasText : String := String.join [
  "CN,Control CR,CR EX,Extend L,L LF,LF LV,LV LVT,LVT PP,Prepend RI,Regional_Indicator ",
  "SM,SpacingMark T,T V,V ZWJ,ZWJ"]

/-- The names of the Word_Break values. -/
def wordBreakAliasText : String := String.join [
  "CR,CR DQ,Double_Quote Extend,Extend EX,ExtendNumLet FO,Format HL,Hebrew_Letter KA,Katakana ",
  "LE,ALetter LF,LF MB,MidNumLet ML,MidLetter MN,MidNum NL,Newline NU,Numeric ",
  "RI,Regional_Indicator SQ,Single_Quote WSegSpace,WSegSpace ZWJ,ZWJ"]

/-- The names of the Sentence_Break values. -/
def sentenceBreakAliasText : String := String.join [
  "AT,ATerm CL,Close CR,CR EX,Extend FO,Format LE,OLetter LF,LF LO,Lower NU,Numeric ",
  "SC,SContinue SE,Sep SP,Sp ST,STerm UP,Upper"]

end IncrementalLR.Unicode
