import SharedSheet.Proofs.Formula.Grammar

/-!
# What a row of tokens tells

A row of tokens can be compared with an expression without a derivation. The numbers, texts and
cells of the expression, its leaves, stand in the row in their order, and every keyword has its
opening parenthesis. That is little, but it is enough to see that a row is not read as an
expression that it was not meant for: one leaf that is another, or one keyword that calls nothing,
and no reading gives the expression. It does not matter whether the row is read at all.

## Main definitions

* `Expr.leaves`, `Token.leaves` — the numbers, texts and cells of an expression and of a token
* `Tells` — the leaves of a row, every keyword of which is open
* `Misread` — a row that tells of something else

## Main results

* `Grammar.tells_of_sentence` — a formula tells of what it denotes
* `Expr.sameArgs_leaves` — equal expressions have equal leaves
* `Misread.sameArgs_eq_false` — what is misread is not read as it was meant
-/

namespace SharedSheet.Formula

open Grammar Token

namespace Expr

/-! ### Numbers, texts and cells -/

mutual

/-- The numbers, texts and cells of an expression. -/
def leaves : Expr → List Expr
  | .number x => [.number x]
  | .text s => [.text s]
  | .cell r => [.cell r]
  | .operation left _ right => leaves left ++ leaves right
  | .call _ args => leavesOfArgs args

/-- The numbers, texts and cells of arguments. -/
def leavesOfArgs : List Expr → List Expr
  | [] => []
  | arg :: args => leaves arg ++ leavesOfArgs args

end

theorem leavesOfArgs_append (args args' : List Expr) :
    leavesOfArgs (args ++ args') = leavesOfArgs args ++ leavesOfArgs args' := by
  induction args with
  | nil => rfl
  | cons arg args ih => simp [leavesOfArgs, ih]

theorem leavesOfArgs_map_cell (cells : List Reference) :
    leavesOfArgs (cells.map .cell) = cells.map .cell := by
  induction cells with
  | nil => rfl
  | cons r cells ih => simp [leavesOfArgs, leaves, ih]

theorem length_eq_of_sameArgs {args args' : List Expr} (h : sameArgs args args' = true) :
    args.length = args'.length := by
  induction args generalizing args' with
  | nil => cases args' <;> simp_all [sameArgs]
  | cons arg args ih =>
    cases args' with
    | nil => simp [sameArgs] at h
    | cons arg' args' =>
      simp only [sameArgs, Bool.and_eq_true] at h
      simp [ih h.2]

theorem sameArgs_append {args args' : List Expr} (h : args.length = args'.length)
    (more more' : List Expr) :
    sameArgs (args ++ more) (args' ++ more') = (sameArgs args args' && sameArgs more more') := by
  induction args generalizing args' with
  | nil =>
    obtain rfl := List.length_eq_zero_iff.1 h.symm
    simp [sameArgs]
  | cons arg args ih =>
    cases args' with
    | nil => simp at h
    | cons arg' args' =>
      simp only [List.cons_append, sameArgs, ih (Nat.succ.inj h), Bool.and_assoc]

mutual

/-- Equal expressions have equal leaves. -/
theorem sameArgs_leaves {e e' : Expr} (h : same e e' = true) :
    sameArgs e.leaves e'.leaves = true := by
  match e, e' with
  | .number x, .number y => simpa [leaves, sameArgs] using h
  | .text s, .text t => simpa [leaves, sameArgs] using h
  | .cell r, .cell r' => simpa [leaves, sameArgs] using h
  | .operation left op right, .operation left' op' right' =>
    simp only [same, Bool.and_eq_true] at h
    have hleft := sameArgs_leaves h.1.2
    rw [leaves, leaves, sameArgs_append (length_eq_of_sameArgs hleft), hleft,
      sameArgs_leaves h.2]
    rfl
  | .call f args, .call f' args' =>
    simp only [same, Bool.and_eq_true] at h
    exact sameArgs_leavesOfArgs h.2

theorem sameArgs_leavesOfArgs {args args' : List Expr} (h : sameArgs args args' = true) :
    sameArgs (leavesOfArgs args) (leavesOfArgs args') = true := by
  match args, args' with
  | [], [] => rfl
  | arg :: args, arg' :: args' =>
    simp only [sameArgs, Bool.and_eq_true] at h
    have harg := sameArgs_leaves h.1
    rw [leavesOfArgs, leavesOfArgs, sameArgs_append (length_eq_of_sameArgs harg), harg,
      sameArgs_leavesOfArgs h.2]
    rfl

end

end Expr

/-! ### What a row of tokens says -/

/-- The numbers, texts and cells that a token stands for. -/
def Token.leaves (t : Token) : List Expr :=
  match t.kind with
  | .number => [.number (Decimal.ofNumeral t.text.toList).toFloat]
  | .text => [.text t.text]
  | .reference => ((Reference.ofChars? t.text.toList).map Expr.cell).toList
  | .range => ((Reading.rangeCells? t.text.toList).getD []).map .cell
  | _ => []

/-- Whether an opening parenthesis follows every keyword of a row. -/
def keywordsOpen : List Token → Bool
  | [] => true
  | t :: ts => (t.kind != .function || ts.head?.any (·.kind == .leftParen)) && keywordsOpen ts

/-- What a row of tokens tells of an expression without its derivation. -/
structure Tells (ts : List Token) (ls : List Expr) : Prop where
  /-- The leaves stand in their order. -/
  leaves : ts.flatMap Token.leaves = ls
  /-- No keyword stands alone. -/
  keywords : keywordsOpen ts = true

variable {ts ts' : List Token} {t : Token} {ls ls' : List Expr} {e e' : Expr}

theorem keywordsOpen_append (h : keywordsOpen ts = true) (h' : keywordsOpen ts' = true) :
    keywordsOpen (ts ++ ts') = true := by
  induction ts with
  | nil => exact h'
  | cons t ts ih =>
    rw [keywordsOpen, Bool.and_eq_true] at h
    rw [List.cons_append, keywordsOpen, ih h.2, Bool.and_true]
    cases ts with
    | nil => simp_all
    | cons t' ts => simpa using h.1

theorem Tells.append (h : Tells ts ls) (h' : Tells ts' ls') : Tells (ts ++ ts') (ls ++ ls') :=
  ⟨by rw [List.flatMap_append, h.leaves, h'.leaves], keywordsOpen_append h.keywords h'.keywords⟩

theorem tells_of_ne (hkind : t.kind ≠ .function) (hleaves : t.leaves = ls) : Tells [t] ls :=
  ⟨by simpa using hleaves, by simp [keywordsOpen, hkind]⟩

/-- Whether tokens of a kind stand for nothing. -/
def Token.Kind.isMark : Kind → Bool
  | .operator | .leftParen | .rightParen | .comma => true
  | _ => false

theorem tells_mark (hmark : t.kind.isMark = true) : Tells [t] [] := by
  refine tells_of_ne (fun hkind => ?_) ?_
  · rw [hkind] at hmark
    exact Bool.noConfusion hmark
  · unfold Token.leaves
    cases hkind : t.kind <;> simp_all [Token.Kind.isMark]

theorem Tells.cons_mark (h : Tells ts ls) (hmark : t.kind.isMark = true) : Tells (t :: ts) ls :=
  (tells_mark hmark).append h

theorem Tells.concat_mark (h : Tells ts ls) (hmark : t.kind.isMark = true) :
    Tells (ts ++ [t]) ls := by
  simpa using h.append (tells_mark hmark)

theorem Tells.keyword (hkeyword : t.kind = .function) {opening : Token}
    (hopening : opening.kind = .leftParen) (h : Tells ts ls) : Tells (t :: opening :: ts) ls := by
  have h' : Tells (opening :: ts) ls := h.cons_mark (by rw [hopening]; rfl)
  exact ⟨by rw [List.flatMap_cons, h'.leaves]; simp [Token.leaves, hkeyword],
    by rw [keywordsOpen, h'.keywords]; simp [hopening]⟩

theorem Tells.tail (h : Tells (t :: ts) ls) : Tells ts (ts.flatMap Token.leaves) := by
  have := h.keywords
  rw [keywordsOpen, Bool.and_eq_true] at this
  exact ⟨rfl, this.2⟩

namespace Grammar

mutual

/-- What a derivation denotes can be told from the tokens. -/
theorem Operand.tells {ts : List Token} {e : Expr} (h : Operand ts e) : Tells ts e.leaves := by
  match h with
  | .number hkind | .text hkind =>
    exact tells_of_ne (by simp [hkind]) (by simp [Token.leaves, hkind, Expr.leaves])
  | .reference hkind hr =>
    exact tells_of_ne (by simp [hkind]) (by simp [Token.leaves, hkind, hr, Expr.leaves])
  | .group hopening h hclosing =>
    exact (h.tells.concat_mark (by rw [hclosing]; rfl)).cons_mark (by rw [hopening]; rfl)
  | .call hkeyword hf hopening h hclosing =>
    exact .keyword hkeyword hopening (h.tells.concat_mark (by rw [hclosing]; rfl))
  | .emptyCall hkeyword hf hopening hclosing =>
    exact .keyword hkeyword hopening (tells_mark (by rw [hclosing]; rfl))

theorem Expression.tells {ts : List Token} {e : Expr} (h : Expression ts e) :
    Tells ts e.leaves := by
  match h with
  | .operand h => exact h.tells
  | .operation h hsign hop h' => exact h.tells.append (h'.tells.cons_mark (by rw [hsign]; rfl))

theorem Argument.tells {ts : List Token} {args : List Expr} (h : Argument ts args) :
    Tells ts (Expr.leavesOfArgs args) := by
  match h with
  | .range hkind htext hfirst hsecond hlists hfew =>
    have hcells := Reading.rangeCells?_eq_some_iff.2
      ⟨_, _, _, _, htext, hfirst, hsecond, hlists, hfew⟩
    exact tells_of_ne (by simp [hkind])
      (by simp [Token.leaves, hkind, hcells, Expr.leavesOfArgs_map_cell])
  | .expression h => simpa [Expr.leavesOfArgs] using h.tells

theorem Arguments.tells {ts : List Token} {args : List Expr} (h : Arguments ts args) :
    Tells ts (Expr.leavesOfArgs args) := by
  match h with
  | .single h => exact h.tells
  | .more h hcomma h' =>
    rw [Expr.leavesOfArgs_append]
    exact h.tells.append (h'.tells.cons_mark (by rw [hcomma]; rfl))

end

theorem tells_of_sentence (h : Grammar.Sentence ts e) : Tells ts e.leaves := by
  cases h with
  | bare h => exact h.tells
  | equals hkind htext h => exact h.tells.cons_mark (by rw [hkind]; rfl)

end Grammar

/-! ### Rows that are read as something else -/

/-- A row of tokens that no reading takes for an expression with certain leaves. -/
inductive Misread : List Expr → List Token → Prop
  /-- Something else stands in the place of a leaf. -/
  | leaf {l l' : Expr} {ls : List Expr} {t : Token} {ts : List Token} : t.leaves = [l'] →
      l'.same l = false → Misread (l :: ls) (t :: ts)
  /-- A keyword calls nothing. -/
  | keyword {ls : List Expr} {t : Token} {ts : List Token} : t.kind = .function →
      (∀ t' ∈ ts.head?, t'.kind ≠ .leftParen) → Misread ls (t :: ts)
  | further {ls ls' : List Expr} {t : Token} {ts : List Token} : t.leaves.length = ls'.length →
      Misread ls ts → Misread (ls' ++ ls) (t :: ts)

namespace Misread

theorem skip (hleaves : t.leaves = []) (h : Misread ls ts) : Misread ls (t :: ts) := by
  have hlength : t.leaves.length = ([] : List Expr).length := by rw [hleaves]
  exact .further hlength h

theorem append (h : Misread ls ts) (hlength : (ts'.flatMap Token.leaves).length = ls'.length) :
    Misread (ls' ++ ls) (ts' ++ ts) := by
  induction ts' generalizing ls' with
  | nil =>
    obtain rfl := List.length_eq_zero_iff.1 hlength.symm
    exact h
  | cons t ts' ih =>
    rw [List.flatMap_cons, List.length_append] at hlength
    have hlast : (ts'.flatMap Token.leaves).length = (ls'.drop t.leaves.length).length := by
      rw [List.length_drop]
      omega
    have hfirst : t.leaves.length = (ls'.take t.leaves.length).length := by
      rw [List.length_take]
      omega
    rw [← List.take_append_drop t.leaves.length ls', List.append_assoc]
    exact .further hfirst (ih hlast)

/-- What has been read as it was meant leaves the rest misread. -/
theorem after (hread : Operand ts' e) (h : Misread ls ts) :
    Misread (e.leaves ++ ls) (ts' ++ ts) := by
  refine h.append ?_
  rw [hread.tells.leaves]

/-- **What is misread is not read as it was meant.** -/
theorem sameArgs_eq_false (h : Misread ls ts) (htells : Tells ts ls') :
    Expr.sameArgs ls' ls = false := by
  induction h generalizing ls' with
  | leaf hleaf hne =>
    rw [← htells.leaves, List.flatMap_cons, hleaf, List.singleton_append, Expr.sameArgs, hne]
    rfl
  | @keyword ls t ts hkind hnext =>
    have hopen := htells.keywords
    cases ts with
    | nil => simp [keywordsOpen, hkind] at hopen
    | cons t' ts => simp_all [keywordsOpen]
  | further hlength h ih =>
    rw [← htells.leaves, List.flatMap_cons, Expr.sameArgs_append hlength, ih htells.tail,
      Bool.and_false]

end Misread

end SharedSheet.Formula
