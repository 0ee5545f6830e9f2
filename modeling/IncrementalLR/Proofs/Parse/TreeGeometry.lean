import IncrementalLR.Proofs.Parse.TiledRuns
import IncrementalLR.Proofs.Lex.Stream
import IncrementalLR.Proofs.Tree.CursorNodes

/-!
# The tree of a fresh parse over its text

The root of a parse without an old tree tiles its text (`RootTiles`): it has no padding and
the length of the whole text, and its children span the text from its start.
-/

namespace IncrementalLR

open Subtree

/-! ### Leaves are subtrees -/

mutual

theorem Subtree.mem_subtrees_of_mem_leaves : ∀ (t : Subtree), ∀ u ∈ t.leaves, u ∈ t.subtrees
  | .mk i [], u, hu => by
    simp only [leaves, List.mem_singleton] at hu
    rw [hu, subtrees]
    exact List.mem_cons_self
  | .mk i (c :: cs), u, hu => by
    rw [leaves] at hu
    rw [subtrees]
    exact List.mem_cons_of_mem _ (mem_subtreesOf_of_mem_leavesOf (c :: cs) u hu)

theorem Subtree.mem_subtreesOf_of_mem_leavesOf :
    ∀ (cs : List Subtree), ∀ u ∈ leavesOf cs, u ∈ subtreesOf cs
  | [], u, hu => by simp at hu
  | c :: cs, u, hu => by
    rw [leavesOf_cons, List.mem_append] at hu
    rw [subtreesOf, List.mem_append]
    rcases hu with hu | hu
    · exact .inl (mem_subtrees_of_mem_leaves c u hu)
    · exact .inr (mem_subtreesOf_of_mem_leavesOf cs u hu)

end

/-! ### The root of a fresh parse -/

namespace RootTiles

variable {ctx : ParseContext} {root : Subtree}

/-- A root of a fresh parse tiles its text, the length of the whole text being the total
    the parse was given. -/
theorem tiles (h : RootTiles ctx root) (htotal : ctx.total = Length.of ctx.input.toList) :
    root.Tiles ctx.input.toList :=
  ⟨h.padding, h.size.trans htotal, h.children⟩

/-- The leaves below a root of a fresh parse, the assumed tokens left out, span the text
    one after another from its start, and end where the root's children end. -/
theorem leaves_tile (h : RootTiles ctx root) :
    SpansList ctx.input.toList 0 ((leavesOf root.children).filter (!·.isMissing)) ∧
      totalOf ((leavesOf root.children).filter (!·.isMissing)) = totalOf root.children := by
  obtain ⟨hspans, htotal⟩ := h.children.leaves
  -- only assumed tokens are left out, and they are empty
  have hempty : ∀ u ∈ leavesOf root.children, (!u.isMissing) = false → u.totalBytes = 0 :=
    fun u hu hmissing => h.missing u (mem_subtreesOf_of_mem_leavesOf _ u hu) (by simpa using hmissing)
  obtain ⟨hfiltered, hsum⟩ := hspans.filter _ hempty
  exact ⟨hfiltered, hsum.trans htotal⟩

/-- Where the children of a root of a fresh parse end, the table's lexer gave the end of the
    input, when the table is one the builder makes: every other lookahead there is one the
    table does not accept. Its padding is the rest of the text, and it has no bytes of its
    own. -/
theorem end_padding {spec : GrammarSpec} (h : RootTiles ctx root) (hspec : spec.build = .ok ctx.table) :
    ∃ state scanner,
      let tok := (nextToken ctx.table ((Cursor.new ctx.input).reset (totalOf root.children))
        state scanner).1
      tok.isEnd = true ∧ tok.padding = Length.of (ctx.input.toList.drop (totalOf root.children).bytes) ∧
        tok.size = Length.zero := by
  obtain ⟨g, sets, hb⟩ := GrammarSpec.build_built hspec
  obtain ⟨la, hla, hlast⟩ := h.last
  -- an accepted lookahead of a built table is the end of the input
  have hend : la.tree.leafSymbol = endSymbol := by
    rcases hlast with hend | ⟨state, hact⟩
    · rw [hla.leafSymbol]
      simpa [Subtree.isEnd] using hend
    · exact (hb.action_sound hact).2.1
  have hX : Length.At ctx.input.data.toList (totalOf root.children) := by
    rw [← byteArray_toList]
    exact h.children.covers
  cases hla with
  | @lexed id state scanner =>
    refine ⟨state, scanner, ?_⟩
    have hvalid := (Cursor.valid_new ctx.input).reset hX
    have hscan := nextToken_scanned (GrammarSpec.build_lexesTerminals hspec) hvalid state scanner
    obtain ⟨-, ⟨hstart, hstop, -, -⟩, -⟩ := nextToken_positions ctx.table hvalid state scanner
    have hin : ((Cursor.new ctx.input).reset (totalOf root.children)).input = ctx.input := by
      rw [Cursor.reset_input]
      rfl
    rw [hin, Cursor.reset_position] at hscan
    dsimp only
    generalize (nextToken ctx.table ((Cursor.new ctx.input).reset (totalOf root.children))
      state scanner).1 = tok at hscan hstart hstop hend ⊢
    have htok : tok.isEnd = true := by
      simpa [Subtree.leafSymbol, ofToken, NodeInfo.blank, Token.isEnd] using hend
    obtain ⟨hstartEnd, hstopEnd⟩ := hscan.at_end htok
    have hsize : ctx.input.data.toList.length = ctx.input.size := by
      rw [← byteArray_toList, byteArray_length_toList]
    -- the padding runs from where the children end to the end of the text
    have hpadding : Length.Covers ctx.input.data.toList (totalOf root.children).bytes tok.padding := by
      rw [Token.padding, hscan.paddingStart]
      exact hX.sub hstart hscan.start_ge
    refine ⟨htok, ?_, ?_⟩
    · rw [hpadding.2, byteArray_toList, List.take_of_length_le]
      simp only [Token.padding, Length.sub_bytes, List.length_drop, hsize, hscan.paddingStart]
      omega
    · have hcovers := hstart.sub hstop (by omega)
      exact hcovers.eq_zero (by simp [hstartEnd, hstopEnd])
  | @assumed id symbol state hsymbol =>
    have hzero : symbol = 0 := by
      simpa [Subtree.leafSymbol, Subtree.symbol, missingLeaf, NodeInfo.blank, endSymbol] using hend
    omega

end RootTiles

/-- The tree of every fresh parse lies over its text. The root spans the whole text: it has
    no padding, the length of the text, and ends at its row and column, where rows count
    line feeds and the column counts the bytes after the last one. Every subtree below it
    has its first child's padding, and its padding and size add up to its children's
    lengths. The children end at some `k` within the text; the leaves that are no assumed
    token span the text from its start one after another up to `k`, with no gap and no
    overlap; and for a table the builder makes, the end of the input is lexed at `k` with
    the rest of the text as its padding. Every node that navigation reaches from the root,
    and every node a cursor started at such a node stands on after any moves, starts and
    ends at the length (bytes, row and column) of the text before it. -/
theorem parseText_tiles_text {t : ParseTable} {options : ParseOptions} {logging : Bool}
    {input : ByteArray} {next next' : Nat} {root : Subtree} {log : Array LogLine}
    (h : parseText t options logging input none next = some (.ok (root, log, next'))) :
    let X := input.toList
    let k := totalOf root.children
    root.padding = Length.zero ∧ root.size = Length.of X ∧
      (SyntaxNode.ofRoot root).startByte = 0 ∧ (SyntaxNode.ofRoot root).endByte = X.length ∧
      (SyntaxNode.ofRoot root).stop.extent =
        ⟨X.count 10, (X.reverse.takeWhile (· != 10)).length⟩ ∧
      (∀ u ∈ subtreesOf root.children, ∀ c cs, u.children = c :: cs →
        u.padding = c.padding ∧ u.padding.add u.size = totalOf (c :: cs)) ∧
      k.bytes ≤ X.length ∧
      SpansList X 0 ((leavesOf root.children).filter (!·.isMissing)) ∧
      totalOf ((leavesOf root.children).filter (!·.isMissing)) = k ∧
      (∀ spec : GrammarSpec, spec.build = .ok t → ∃ state scanner,
        let tok := (nextToken t ((Cursor.new input).reset k) state scanner).1
        tok.isEnd = true ∧ tok.padding = Length.of (X.drop k.bytes) ∧ tok.size = Length.zero) ∧
      ∀ n, SyntaxNode.Reached root n →
        (n.position = Length.of (X.take n.startByte) ∧ n.stop = Length.of (X.take n.endByte)) ∧
        ∀ (table : ParseTable) (c : TreeCursor), (n.walk table).Reaches c →
          c.node.position = Length.of (X.take c.node.startByte) ∧
            c.node.stop = Length.of (X.take c.node.endByte) := by
  intro X k
  have hroot := parseText_rootTiles h
  have htiles : root.Tiles X := hroot.tiles rfl
  have hstop : (SyntaxNode.ofRoot root).stop = Length.of X := by
    rw [SyntaxNode.stop, SyntaxNode.ofRoot, Length.zero_add, htiles.size]
  -- a node that sits on the text is where the text before it ends
  have hplace : ∀ m : SyntaxNode, SyntaxNode.Sits X m →
      m.position = Length.of (X.take m.startByte) ∧ m.stop = Length.of (X.take m.endByte) :=
    fun m hm => ⟨hm.start.eq, hm.stop.eq⟩
  obtain ⟨hleaves, hleavesTotal⟩ := hroot.leaves_tile
  refine ⟨htiles.padding, htiles.size, rfl, ?_, ?_, fun u hu c cs hcs => ?_,
    by simpa using htiles.children.covers.le, hleaves, hleavesTotal, fun spec hspec => hroot.end_padding hspec,
    fun n hn => ⟨hplace n (hn.sits htiles), fun table c hc => hplace c.node (hc.sits htiles hn)⟩⟩
  · rw [SyntaxNode.endByte, hstop, Length.bytes_of]
  · rw [hstop, Length.extent_of, Point.zero_advance]
  · obtain ⟨b, hspans⟩ := htiles.children.subtrees u hu
    exact hspans.node_geometry hcs

/-- The sample's parse of ` a ab c c` lies over the text: the root spans its nine bytes,
    and its leaves `a`, `ab`, `c` and `c`, each after a blank, tile it up to its end. -/
theorem parseText_tiles_text_sample :
    ∃ root log next, parseText ParseTable.sample ParseOptions.standard false sampleText none 0 =
      some (.ok (root, log, next)) ∧
      (leavesOf root.children).map (fun l => (l.symbol, l.padding.bytes, l.size.bytes)) =
        [(2, 1, 1), (3, 1, 2), (1, 1, 1), (1, 1, 1)] ∧
      root.padding = Length.zero ∧ root.size = Length.of sampleText.toList ∧
      SpansList sampleText.toList 0 ((leavesOf root.children).filter (!·.isMissing)) ∧
      totalOf ((leavesOf root.children).filter (!·.isMissing)) = totalOf root.children ∧
      (totalOf root.children).bytes = sampleText.size := by
  have hrun : (parseText ParseTable.sample ParseOptions.standard false sampleText none 0).any
      (returnsWith fun r : Subtree × Array LogLine × Nat =>
        (leavesOf r.1.children).map (fun l => (l.symbol, l.padding.bytes, l.size.bytes)) ==
          [(2, 1, 1), (3, 1, 2), (1, 1, 1), (1, 1, 1)] &&
        (totalOf r.1.children).bytes == 9) = true := by
    decide +kernel
  obtain ⟨⟨root, log, next⟩, hparse, hleaves⟩ := exists_of_any_returnsWith hrun
  simp only [Bool.and_eq_true, beq_iff_eq] at hleaves
  obtain ⟨hpadding, hsize, -, -, -, -, -, hspans, htotal, -⟩ := parseText_tiles_text hparse
  exact ⟨root, log, next, hparse, hleaves.1, hpadding, hsize, hspans, htotal, hleaves.2⟩

end IncrementalLR
