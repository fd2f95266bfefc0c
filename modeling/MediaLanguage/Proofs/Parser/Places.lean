import Mathlib
import MediaLanguage.Proofs.Parser.Calls
import MediaLanguage.Proofs.Parser.Spans

/-!
# Where the nodes of a program stand

* `Parse.covers_fromCursor`: the statements of a run cover the tokens of the text.
* `Spans.of_descends`: a node below another spans a part of its tokens.
* `Tree.Placed`: every node stands at a token, not in front of the node above it, and behind everything below the
  nodes in front of it in its list.
* `parse_placed`: this holds of every program, because tokens have increasing offsets.
-/

open MediaLanguage.Parser

namespace MediaLanguage

section Covers

variable {s : TokenStream} {i j : Nat} {t d : Tree} {ts : List Tree}

/-- A node below another spans a part of its tokens. The induction goes down from the node above. -/
theorem Spans.of_descends (h : Spans s i j t) (hd : t.Descends d) : ∃ k l, i ≤ k ∧ l ≤ j ∧ Spans s k l d := by
  induction hd generalizing i j with
  | refl t => exact ⟨i, j, Nat.le_refl _, Nat.le_refl _, h⟩
  | @step t child d group hgroup hchild _ ih =>
    cases h with
    | node _ _ hgroups =>
      obtain ⟨k, l, hk, hl, hspans⟩ := (hgroups group hgroup).exists_of_mem hchild
      obtain ⟨k', l', hk', hl', hspans'⟩ := ih hspans
      exact ⟨k', l', by omega, by omega, hspans'⟩

/-- What stands below a tree of a list is read before the next tree of the list. -/
theorem Covers.pairwise (h : Covers s i j ts) :
    ts.Pairwise fun a b => ∃ m k l, m ≤ k ∧ Spans s k l b ∧ ∃ n, Spans s n m a := by
  induction ts generalizing i with
  | nil => exact .nil
  | cons t ts ih =>
    cases h with
    | @cons _ k l _ _ _ _ ht hts =>
      refine List.pairwise_cons.2 ⟨fun b hb => ?_, ih hts⟩
      obtain ⟨k', l', hk', -, hspans⟩ := hts.exists_of_mem hb
      exact ⟨l, k', l', hk', hspans, k, ht⟩

end Covers

/-! ## Runs -/

/-- The statements of a run cover the tokens behind the cursor where it starts. -/
theorem Parse.covers_fromCursor {s : TokenStream} {c : Cursor} (hc : (Cursor.ofStream s).Reaches c) :
    Covers s (s.index c) s.tokens.length ((fromCursor c).statements.map Ast.Statement.tree) := by
  induction c using statements_induction with
  | hover c => exact .nil (s.index_le_length c)
  | herror hround ih => exact (ih (hc.trans hround.reaches)).of_le_left (TokenStream.index_le hround.reaches)
  | @hstatement c node d nodes hrest hrun ih =>
    have hskip := c.reaches_skipWhile isDivider
    exact .cons (TokenStream.index_le hskip) (roots_statement (hc.trans hskip) node d hrun)
      (ih (hc.trans (Round.statement hrest hrun).reaches))

/-! ## Places -/

namespace Tree

/-- A node below `t`. -/
def Below (t d : Tree) : Prop :=
  ∃ group ∈ t.groups, ∃ child ∈ group, child.Descends d

/-- The nodes of a tree stand where their tokens do. -/
structure Placed (t : Tree) (tokens : List Token) : Prop where
  /-- Every node below stands at a token. -/
  places : ∀ d, t.Below d → ∃ u ∈ tokens, d.position = u.position ∧ 1 ≤ d.position.line ∧ 1 ≤ d.position.column
  /-- No node stands in front of the one above it. -/
  parents : ∀ d, t.Descends d → ∀ group ∈ d.groups, ∀ child ∈ group, d.position.offset ≤ child.position.offset
  /-- In a list of child nodes, each stands behind all that is below those in front of it. -/
  siblings : ∀ d, t.Descends d → ∀ group ∈ d.groups,
    group.Pairwise fun a b => ∀ e, a.Descends e → e.position.offset < b.position.offset

end Tree

/-- The nodes of a program stand where their tokens do. -/
theorem parse_placed {source : String} {program : Ast.Program} (h : parse source = .ok program) :
    ∃ s, tokenize source = .ok s ∧ program.tree.Placed s.tokens := by
  obtain ⟨s, hs, -, -, hstatements⟩ := parse_eq_ok_iff.1 h
  have hascends := tokenize_ascends hs
  have hcovers := Parse.covers_fromCursor (.refl (Cursor.ofStream s))
  change Covers s _ _ (s.parse.statements.map _) at hcovers
  rw [hstatements] at hcovers
  have hbelow : ∀ d, program.tree.Below d → ∃ k l, l ≤ s.tokens.length ∧ Spans s k l d := by
    rintro d ⟨group, hgroup, child, hchild, hd⟩
    obtain rfl := List.mem_singleton.1 hgroup
    obtain ⟨k, l, -, hl, hspans⟩ := hcovers.exists_of_mem hchild
    obtain ⟨k', l', -, hl', hspans'⟩ := hspans.of_descends hd
    exact ⟨k', l', by omega, hspans'⟩
  -- the program itself stands at the start of the text and spans no token of its own
  have hgroups : ∀ d, program.tree.Descends d → ∀ group ∈ d.groups, ∃ k l, Covers s k l group ∧
      ∀ q, (∃ m, k ≤ m ∧ s.Stands m q) → d.position.offset ≤ q.offset := by
    intro d hd group hgroup
    cases hd with
    | refl =>
      obtain rfl := List.mem_singleton.1 hgroup
      exact ⟨_, _, hcovers, fun q _ => Nat.zero_le _⟩
    | step hg hchild hd =>
      obtain ⟨k, l, -, hspans⟩ := hbelow d ⟨_, hg, _, hchild, hd⟩
      exact ⟨k, l, hspans.groups group hgroup, fun q ⟨m, hm, hq⟩ => hspans.stands.offset_le hq hascends hm⟩
  refine ⟨s, hs, fun d hd => ?_, fun d hd group hgroup child hchild => ?_, fun d hd group hgroup => ?_⟩
  · obtain ⟨k, l, hl, hspans⟩ := hbelow d hd
    have hlt := hspans.lt
    obtain ⟨u, hu, hposition⟩ := hspans.stands.exists_token (by omega)
    have hcounted := hascends.counted u (List.mem_append_left _ hu)
    rw [← hposition] at hcounted
    exact ⟨u, hu, hposition, hcounted⟩
  · obtain ⟨k, l, hcover, hle⟩ := hgroups d hd group hgroup
    obtain ⟨k', l', hk', -, hspans⟩ := hcover.exists_of_mem hchild
    exact hle _ ⟨k', hk', hspans.stands⟩
  · obtain ⟨k, l, hcover, -⟩ := hgroups d hd group hgroup
    refine hcover.pairwise.imp ?_
    rintro a b ⟨m, k', l', hm, hb, n, ha⟩ e he
    obtain ⟨n', m', -, hm', hspans⟩ := ha.of_descends he
    have hlt := hspans.lt
    exact hspans.stands.offset_lt hb.stands hascends (by omega)

/-- An object in an object behind a period, and a statement behind them. -/
def nestedObjectSource : String :=
  "let x = \x7ba = \"d\" to current; b = \x7bc = true\x7d\x7d\n@n"

/-- The nodes of the objects stand where their tokens do. -/
theorem parse_placed_object :
    ∃ program, parse nestedObjectSource = .ok program ∧
      ∃ s, tokenize nestedObjectSource = .ok s ∧ program.tree.Placed s.tokens := by
  have h : parse nestedObjectSource =
      .ok ⟨[.letVariable ⟨"x", .object
        [.period "a" ⟨.day "d" ⟨1, 14, 13⟩, some (.current ⟨1, 21, 20⟩)⟩ ⟨1, 10, 9⟩,
          .assignment "b" (.object [.assignment "c" (.boolean true ⟨1, 39, 38⟩) ⟨1, 35, 34⟩] ⟨1, 34, 33⟩) ⟨1, 30, 29⟩]
        ⟨1, 9, 8⟩, ⟨1, 1, 0⟩⟩, .comment ⟨"@n: ", false, ⟨2, 1, 45⟩⟩]⟩ := by
    cbv
  exact ⟨_, h, parse_placed h⟩

end MediaLanguage
