import SharedSheet.Proofs.Formula.References
import SharedSheet.Proofs.Formula.Rendering
import SharedSheet.Proofs.Formula.Tokens
import SharedSheet.Proofs.Reference.Codec

/-!
# Nothing but the references is read

Which cells a formula reads is found by one recursion over its expression, and its value by another
one. A worksheet takes its cells in the order that the first one gives, so the second one must not
read a cell that is not listed. Conversely nothing is listed that does not occur: the list has the
cells at the leaves of the expression, each where it occurs first.

For a text there is one exception. A text that is no formula lists no cells, since a worksheet keeps
it as it is. But a cell that is named by such a text and nothing else is looked up when the text is
evaluated outside a worksheet.

## Main definitions

* `Expr.occurrences` — the cells at the leaves of an expression, from left to right
* `bareReference?` — the cell that a text names by itself

## Main results

* `Expr.pairwise_idxOf_references` — references are listed where they first occur
* `Term.references_complete` — all cells that a term reads are listed, and in which order
* `Token.exists_ofString_iff_stands` — which texts are one token
* `Term.ofString_eq_ok_bare_cell_iff` — the texts that are read as a cell by itself
* `references_cover_evaluation` — what is listed for a text covers what its evaluation reads
-/

namespace SharedSheet.Formula

open Token

/-! ### Where cells occur -/

namespace Expr

/-- The cell that an expression is. -/
def cell? : Expr → Option Reference
  | .cell r => some r
  | _ => none

/-- The cells at the leaves of an expression, from left to right, as often as they occur. -/
def occurrences (e : Expr) : List Reference := e.leaves.filterMap cell?

mutual

theorem cells_eq_occurrences : ∀ e : Expr, e.cells = e.occurrences
  | .number _ => rfl
  | .text _ => rfl
  | .cell _ => rfl
  | .operation left _ right => by
    rw [cells_operation, cells_eq_occurrences left, cells_eq_occurrences right, occurrences,
      occurrences, occurrences, leaves, List.filterMap_append]
  | .call _ args => by
    rw [cells_call, flatMap_cells_eq args]
    rfl

theorem flatMap_cells_eq : ∀ args : List Expr,
    args.flatMap cells = (leavesOfArgs args).filterMap cell?
  | [] => rfl
  | arg :: args => by
    rw [List.flatMap_cons, cells_eq_occurrences arg, flatMap_cells_eq args, occurrences,
      leavesOfArgs, List.filterMap_append]

end

/-- Elements that are kept keep their order. -/
theorem idxOf_lt_of_idxOf_filter_lt {p : Reference → Bool} {r q : Reference} (hr : p r = true)
    (hq : p q = true) {rs : List Reference} (h : (rs.filter p).idxOf r < (rs.filter p).idxOf q) :
    rs.idxOf r < rs.idxOf q := by
  induction rs with
  | nil => exact h
  | cons c rs ih => grind

/-- Elements that are listed once are listed where they first occur. -/
theorem pairwise_idxOf_eraseDups (rs : List Reference) :
    rs.eraseDups.Pairwise fun r q => rs.idxOf r < rs.idxOf q := by
  match rs with
  | [] => exact .nil
  | c :: rs =>
    have hne : ∀ r ∈ (rs.filter fun r => !r == c).eraseDups, r ≠ c := fun r hr => by
      simpa using (List.mem_filter.1 (List.mem_eraseDups.1 hr)).2
    have hindex : ∀ r, r ≠ c → (c :: rs).idxOf r = rs.idxOf r + 1 := fun r hr =>
      List.idxOf_cons_ne rs hr.symm
    rw [List.eraseDups_cons, List.pairwise_cons]
    refine ⟨fun r hr => ?_, ?_⟩
    · rw [List.idxOf_cons_self, hindex r (hne r hr)]
      omega
    · -- The order among the others is that of a list from which `c` was dropped.
      have ih := pairwise_idxOf_eraseDups (rs.filter fun r => !r == c)
      refine ih.imp_of_mem fun {r q} hr hq hlt => ?_
      have hlt := idxOf_lt_of_idxOf_filter_lt (by simpa using hne r hr)
        (by simpa using hne q hq) hlt
      rw [hindex r (hne r hr), hindex q (hne q hq)]
      omega
termination_by rs.length
decreasing_by exact Nat.lt_succ_of_le (List.length_filter_le _ _)

variable {e : Expr} {r : Reference}

/-- **The references are what occurs.** -/
theorem mem_references_iff_mem_occurrences : r ∈ e.references ↔ r ∈ e.occurrences := by
  rw [mem_references, cells_eq_occurrences]

/-- **References are listed where they first occur.** -/
theorem pairwise_idxOf_references (e : Expr) :
    e.references.Pairwise fun r q => e.occurrences.idxOf r < e.occurrences.idxOf q := by
  rw [references_eq_eraseDups, cells_eq_occurrences]
  exact pairwise_idxOf_eraseDups e.occurrences

theorem nodup_references (e : Expr) : e.references.Nodup :=
  (pairwise_idxOf_references e).imp fun {r q} hlt => by
    rintro rfl
    exact Nat.lt_irrefl _ hlt

end Expr

/-! ### What a term reads -/

/-- **All that a term reads is listed.** Contexts that agree on the references of a term give it the
same value or the same error. The references are the cells that occur in the term, each once, in the
order in which they first occur from left to right. -/
theorem Term.references_complete (t : Term) :
    (∀ ctx ctx' : Context, (∀ r ∈ t.references, ctx r = ctx' r) →
      t.expr.eval ctx = t.expr.eval ctx') ∧
    (∀ r, r ∈ t.references ↔ r ∈ t.expr.occurrences) ∧ t.references.Nodup ∧
    t.references.Pairwise fun r q => t.expr.occurrences.idxOf r < t.expr.occurrences.idxOf q :=
  ⟨fun _ _ => Expr.eval_congr, fun _ => Expr.mem_references_iff_mem_occurrences,
    Expr.nodup_references t.expr, Expr.pairwise_idxOf_references t.expr⟩

/-- A context in which only `$C1` is set. -/
def onlyThird : Context := fun r => if r = ⟨3, 1⟩ then .text "x" else .blank

/-- `$B1|SUM($A1,$B1)` reads `$B1` twice, and `$C1` not at all. -/
theorem Term.references_complete_repeating :
    let t : Term := .formula
      (.operation (.cell ⟨2, 1⟩) .or (.call .sum [.cell ⟨1, 1⟩, .cell ⟨2, 1⟩]))
    t.references = [⟨2, 1⟩, ⟨1, 1⟩] ∧ (∀ r ∈ t.references, onlyThird r = .blank) ∧
      t.expr.eval onlyThird = t.expr.eval fun _ => .blank := by
  intro t
  have hcells : t.references = [⟨2, 1⟩, ⟨1, 1⟩] := by
    rw [Term.references, Expr.references_eq_eraseDups]
    decide +kernel
  have hunset : ∀ r ∈ t.references, onlyThird r = .blank := by
    rw [hcells]
    decide
  exact ⟨hcells, hunset, (references_complete t).1 onlyThird (fun _ => .blank) hunset⟩

/-! ### Texts that name a cell by themselves -/

/-- The cell that a text names by itself, with its dollar sign and at most white space around it. -/
def bareReference? (s : String) : Option Reference :=
  if (Text.trim s.toList).head? = some '$' then Reference.ofChars? (Text.trim s.toList) else none

theorem bareReference?_eq_some_iff {s : String} {r : Reference} : bareReference? s = some r ↔
    (Text.trim s.toList).head? = some '$' ∧ Reference.ofChars? (Text.trim s.toList) = some r :=
  Option.ite_none_right_eq_some

namespace Token

variable {signed : Bool} {cs : List Char} {t : Token} {kind : Kind} {s : String}

/-- A reference starts with its dollar sign. -/
theorem head?_text_of_mem_scan {offset : Nat} (ht : t ∈ scan offset signed cs)
    (hkind : t.kind = .reference) : t.text.toList.head? = some '$' := by
  fun_induction scan offset signed cs with
  | case1 => simp at ht
  | case2 offset signed c cs hblank ih => exact ih ht
  | case3 offset signed c cs hblank kind n hlead text ih =>
    rcases List.mem_cons.1 ht with rfl | ht
    · obtain rfl : kind = .reference := hkind
      rw [String.toList_ofList, List.head?_cons]
      rcases lead_cases hlead with h | ⟨-, h, -⟩
      · cases special_of_special? h with
        | reference hlength =>
          obtain ⟨letters, digits, rest, hcs, -⟩ := exists_of_referenceLength? hlength
          exact congrArg some (List.cons.inj hcs).1
      · cases h
    · exact ih ht

/-- A text that is one token is this token and white space. -/
theorem trim_eq_of_ofString (h : ofString s = [t]) : Text.trim s.toList = t.text.toList := by
  have hcuts : Cuts 0 s.toList [t] := h ▸ cuts_scan 0 true s.toList
  generalize s.toList = cs at hcuts ⊢
  cases hcuts with
  | token hgap hne hclear hoffset hrest =>
    cases hrest with
    | done hrest => exact Text.trim_append_append hgap hclear hrest

/-- A text that is one token stands by itself. -/
theorem stands_of_ofString (h : ofString s = [t]) (htext : t.text = s) :
    Stands t.kind s.toList := by
  subst htext
  have hclear := Text.trim_eq_self_iff.1 (trim_eq_of_ofString h)
  rw [ofString] at h
  cases hcs : t.text.toList with
  | nil =>
    rw [hcs, scan] at h
    cases h
  | cons c more =>
    rw [hcs] at h hclear
    have hblank : Text.isBlank c = false := hclear.1 c rfl
    refine ⟨c, more, rfl, hblank, ?_⟩
    cases hlead : lead true c more with
    | mk kind n =>
      -- The token takes the whole text, so nothing is left behind it.
      rw [scan_of_lead hblank hlead] at h
      obtain rfl := (List.cons.inj h).1
      rw [String.toList_ofList, List.cons.injEq, and_iff_right rfl, List.take_eq_self_iff] at hcs
      rw [Nat.le_antisymm (lead_le hlead) hcs]

theorem text_of_ofString (h : ofString s = [t]) : t.text = Text.trimmed s := by
  rw [Text.trimmed, trim_eq_of_ofString h, String.ofList_toList]

/-- **A text is one token** just when it stands by itself without the white space around it. -/
theorem exists_ofString_iff_stands :
    (∃ t, ofString s = [t] ∧ t.kind = kind) ↔ Stands kind (Text.trim s.toList) := by
  -- Without the white space the text has the same token, only at another place.
  have hlexemes := map_lexeme_ofString_trimmed s
  rw [← String.toList_ofList (l := Text.trim s.toList), ← Text.trimmed]
  constructor
  · rintro ⟨t, ht, rfl⟩
    rw [ht] at hlexemes
    obtain ⟨t', ht', hlexeme⟩ := List.map_eq_singleton_iff.1 hlexemes
    have hkind : t'.kind = t.kind := congrArg Prod.fst hlexeme
    have htext : t'.text = t.text := congrArg Prod.snd hlexeme
    exact hkind ▸ stands_of_ofString ht' (htext.trans (text_of_ofString ht))
  · intro h
    rw [Term.ofString_of_stands h] at hlexemes
    obtain ⟨t, ht, hlexeme⟩ := List.map_eq_singleton_iff.1 hlexemes.symm
    exact ⟨t, ht, congrArg Prod.fst hlexeme⟩

end Token

namespace Term

variable {s : String} {r : Reference}

theorem literal_eq_ok_cell_iff : Term.literal s = .ok (.bare (.cell r)) ↔
    ∃ t, Token.ofString s = [t] ∧ t.kind = .reference ∧
      Reference.ofChars? t.text.toList = some r := by
  unfold Term.literal
  split
  · rename_i t htokens
    simp only [htokens, List.cons.injEq, and_true, exists_eq_left']
    split
    · simp_all
    · split <;> simp_all
    · simp_all
  · rename_i hmany
    simp only [Except.ok.injEq, Term.bare.injEq, reduceCtorEq, false_iff]
    exact fun ⟨t, ht, _⟩ => hmany t ht

/-- What is read as a bare term is no formula. -/
theorem isFormulaText_eq_false {e : Expr} (h : Term.ofString s = .ok (.bare e)) :
    isFormulaText s = false := by
  by_contra hformula
  obtain ⟨_, he, -⟩ := (ofString_eq_ok_iff_derives (Bool.eq_true_of_not_eq_false hformula)).1 h
  cases he

/-- A text that names a cell by itself is one token. -/
theorem stands_of_bareReference? (h : bareReference? s = some r) :
    Stands .reference (Text.trim s.toList) := by
  obtain ⟨hdollar, hr⟩ := bareReference?_eq_some_iff.1 h
  obtain ⟨p, hchars, -⟩ := Reference.ofChars?_eq_some_iff_spelling.1 hr
  rw [← hchars, p.head?_chars_eq_iff] at hdollar
  have hspelled : p.chars = '$' :: (p.letters ++ p.digits) := by
    rw [Reference.Spelling.chars, hdollar]
    rfl
  rw [← hchars, hspelled]
  exact stands_of_letters_digits p.letters_ne_nil p.isLetter_of_mem p.digits_ne_nil
    p.isDigit_of_mem

/-- **The texts that are read as a cell by itself.** -/
theorem ofString_eq_ok_bare_cell_iff :
    Term.ofString s = .ok (.bare (.cell r)) ↔ bareReference? s = some r := by
  constructor
  · intro h
    rw [ofString_of_not_isFormulaText (isFormulaText_eq_false h)] at h
    obtain ⟨t, ht, hkind, hr⟩ := literal_eq_ok_cell_iff.1 h
    have hmem : t ∈ Token.scan 0 true s.toList :=
      show t ∈ Token.ofString s from ht ▸ List.mem_cons_self
    rw [bareReference?_eq_some_iff, trim_eq_of_ofString ht]
    exact ⟨head?_text_of_mem_scan hmem hkind, hr⟩
  · intro h
    obtain ⟨hdollar, hr⟩ := bareReference?_eq_some_iff.1 h
    have hbare : isFormulaText s = false := by
      obtain ⟨rest, hrest⟩ := Text.trim_isPrefix s.toList
      rw [isFormulaText, ← hrest, List.head?_append, hdollar]
      rfl
    obtain ⟨t, ht, hkind⟩ := exists_ofString_iff_stands.2 (stands_of_bareReference? h)
    rw [ofString_of_not_isFormulaText hbare, literal_eq_ok_cell_iff]
    exact ⟨t, ht, hkind, by rw [← trim_eq_of_ofString ht, hr]⟩

end Term

/-! ### What a text reads -/

theorem references_of_bareReference? {s : String} {r : Reference}
    (h : bareReference? s = some r) : references s = .ok [] := by
  rw [references, Term.ofString_eq_ok_bare_cell_iff.2 h]
  rfl

theorem evaluate_of_bareReference? {s : String} {r : Reference} (h : bareReference? s = some r)
    (ctx : Context) : evaluate ctx s = .ok (ctx r) := by
  rw [evaluate, Term.ofString_eq_ok_bare_cell_iff.2 h]
  rfl

/-- **What is listed for a text covers what its evaluation reads**, unless the text names a cell by
itself: no cells are listed for such a text, and its value is that of the cell. -/
theorem references_cover_evaluation (s : String) :
    (bareReference? s = none → ∀ ctx ctx' : Context,
      (∀ cells, references s = .ok cells → ∀ r ∈ cells, ctx r = ctx' r) →
        evaluate ctx s = evaluate ctx' s) ∧
    ∀ r, bareReference? s = some r →
      references s = .ok [] ∧ ∀ ctx, evaluate ctx s = .ok (ctx r) := by
  refine ⟨fun hnone ctx ctx' hagree => ?_,
    fun r hr => ⟨references_of_bareReference? hr, evaluate_of_bareReference? hr⟩⟩
  cases hterm : Term.ofString s with
  | error e => simp only [evaluate, hterm]
  | ok t =>
    have heval : t.expr.eval ctx = t.expr.eval ctx' := by
      cases t with
      | formula e =>
        have hlisted : references s = .ok e.references := by
          rw [references, hterm]
          rfl
        exact Expr.eval_congr (hagree e.references hlisted)
      | bare e =>
        -- Of the literals only a reference reads a cell, and then the text names that cell.
        have hliteral := hterm
        rw [Term.ofString_of_not_isFormulaText (Term.isFormulaText_eq_false hterm)] at hliteral
        rcases Term.literal_cases hliteral with ⟨x, he⟩ | ⟨r, he, -⟩ | ⟨he, -⟩
        · cases he
          rfl
        · cases he
          rw [Term.ofString_eq_ok_bare_cell_iff.1 hterm] at hnone
          cases hnone
        · cases he
          rfl
    simp only [evaluate, hterm, heval]

/-- What is listed for a text occurs in its term. -/
theorem exists_mem_cells_of_references {s : String} {cells : List Reference} {r : Reference}
    (h : references s = .ok cells) (hr : r ∈ cells) :
    ∃ t, Term.ofString s = .ok t ∧ r ∈ t.expr.cells := by
  rw [references] at h
  split at h
  · cases h
  · rename_i t hterm
    obtain rfl := Except.ok.inj h
    split at hr
    · exact ⟨t, hterm, Expr.mem_references.1 hr⟩
    · cases hr

/-- A formula that does not read `$C1`, and a text that names it. -/
theorem references_cover_evaluation_third :
    bareReference? "=$A1*$B1" = none ∧
      (∀ cells, references "=$A1*$B1" = .ok cells → ∀ r ∈ cells, onlyThird r = .blank) ∧
      evaluate onlyThird "=$A1*$B1" = evaluate (fun _ => .blank) "=$A1*$B1" ∧
      bareReference? " $C1" = some ⟨3, 1⟩ ∧ references " $C1" = .ok [] ∧
      evaluate onlyThird " $C1" = .ok (.text "x") := by
  have hformula : bareReference? "=$A1*$B1" = none := by decide +kernel
  have hbare : bareReference? " $C1" = some ⟨3, 1⟩ := by decide +kernel
  have hunset : ∀ cells, references "=$A1*$B1" = .ok cells →
      ∀ r ∈ cells, onlyThird r = .blank := by
    intro cells hcells r hr
    obtain ⟨t, hterm, hmem⟩ := exists_mem_cells_of_references hcells hr
    have hread : (Term.ofString "=$A1*$B1").toOption.map (·.expr.cells) =
        some [⟨1, 1⟩, ⟨2, 1⟩] := by
      decide +kernel
    have hlist : t.expr.cells = [⟨1, 1⟩, ⟨2, 1⟩] := by
      rw [hterm] at hread
      exact Option.some.inj hread
    have hblank : ∀ r ∈ [⟨1, 1⟩, ⟨2, 1⟩], onlyThird r = .blank := by decide
    exact hblank r (hlist ▸ hmem)
  obtain ⟨hnone, hvalue⟩ := (references_cover_evaluation " $C1").2 _ hbare
  exact ⟨hformula, hunset, (references_cover_evaluation "=$A1*$B1").1 hformula _ _ hunset, hbare,
    hnone, hvalue onlyThird⟩

/-- The value of a text that names a cell is that of the cell, and no cells are listed for it. -/
theorem not_forall_references_cover : ¬∀ s (ctx ctx' : Context),
    (∀ cells, references s = .ok cells → ∀ r ∈ cells, ctx r = ctx' r) →
      evaluate ctx s = evaluate ctx' s := by
  have hbare : bareReference? "$A1" = some ⟨1, 1⟩ := by decide +kernel
  intro h
  have hvalues := h "$A1" (fun _ => .blank) (fun _ => .text "x") fun cells hcells r hr => by
    rw [references_of_bareReference? hbare] at hcells
    cases hcells
    cases hr
  rw [evaluate_of_bareReference? hbare, evaluate_of_bareReference? hbare] at hvalues
  cases hvalues

end SharedSheet.Formula
