import SharedSheet.Proofs.Json.Documents

/-!
# Truncated texts

A text that was cut off while it was written is a prefix of what was to be written. What is proved
here is that such a prefix is never taken for a whole record: the closing brace of a record is its
last character, and until it is there no record is closed.

The argument has two halves. On the level of characters, cutting a text off changes its lexemes only
at the end: all but the last one are lexemes of the whole text, and the last one may be a numeral
that has lost digits or something broken, but no bracket. On the level of lexemes, a list or record
that is closed was closed by a bracket, and further lexemes would have made no difference to it.

## Main definitions

* `Document.isClosed` — a list or record with its closing bracket

## Main results

* `Lexeme.exists_ofChars_append` — the lexemes of a text and of a longer one
* `Reading.run_append_of_isClosed` — what is closed stays as it is when more follows
* `Decoder.decode_of_prefix_write` — no proper prefix of a written record is a record
-/

namespace SharedSheet.Json

/-! ### Numerals

A numeral that does not reach the end of a text is not changed by what follows the text. -/

namespace Numeral

variable {cs rest digits : List Char}

theorem splitDigits?_append (h : splitDigits? cs = some (digits, rest)) (hrest : rest ≠ [])
    (ds : List Char) : splitDigits? (cs ++ ds) = some (digits, rest ++ ds) := by
  have hlength := congrArg List.length (List.takeWhile_append_dropWhile (p := Char.isDigit) (l := cs))
  unfold splitDigits? at h
  split at h
  · simp at h
  · rename_i hne
    obtain ⟨rfl, rfl⟩ := Prod.mk.inj (Option.some.inj h)
    have hpos := List.length_pos_iff.2 hrest
    rw [List.length_append] at hlength
    have hshort : (cs.takeWhile Char.isDigit).length ≠ cs.length := by omega
    have htake : (cs ++ ds).takeWhile Char.isDigit = cs.takeWhile Char.isDigit := by
      rw [List.takeWhile_append, if_neg hshort]
    have hdrop : (cs ++ ds).dropWhile Char.isDigit = cs.dropWhile Char.isDigit ++ ds := by
      rw [List.dropWhile_append, if_neg (by simpa using hrest)]
    rw [splitDigits?, htake, hdrop]
    split
    · exact absurd (by assumption) hne
    · rfl

theorem splitWhole?_append (h : splitWhole? cs = some (digits, rest)) (hrest : rest ≠ [])
    (ds : List Char) : splitWhole? (cs ++ ds) = some (digits, rest ++ ds) := by
  unfold splitWhole? at h
  split at h
  · simp at h
  · rename_i hzero
    rw [splitWhole?, splitDigits?_append h hrest]
    split
    · rename_i heq
      obtain ⟨rfl, rfl⟩ := Prod.mk.inj (Option.some.inj heq)
      exact absurd h (hzero _ _ _)
    · rfl

theorem splitFraction?_append (h : splitFraction? cs = some (digits, rest)) (hrest : rest ≠ [])
    (ds : List Char) : splitFraction? (cs ++ ds) = some (digits, rest ++ ds) := by
  unfold splitFraction? at h
  split at h
  · exact splitDigits?_append h hrest ds
  · rename_i hpoint
    obtain ⟨rfl, rfl⟩ := Prod.mk.inj (Option.some.inj h)
    obtain ⟨c, cs, rfl⟩ := List.exists_cons_of_ne_nil hrest
    have hc : c ≠ '.' := fun hc => hpoint cs (by rw [hc])
    simp [splitFraction?, hc]

theorem splitPower?_append {power : Bool × List Char} (h : splitPower? cs = some (power, rest))
    (hrest : rest ≠ []) (ds : List Char) :
    splitPower? (cs ++ ds) = some (power, rest ++ ds) := by
  unfold splitPower? at h
  split at h
  · obtain ⟨⟨digits, rest'⟩, hdigits, heq⟩ := Option.map_eq_some_iff.1 h
    obtain ⟨rfl, rfl⟩ := Prod.mk.inj heq
    simp [splitPower?, splitDigits?_append hdigits hrest]
  · obtain ⟨⟨digits, rest'⟩, hdigits, heq⟩ := Option.map_eq_some_iff.1 h
    obtain ⟨rfl, rfl⟩ := Prod.mk.inj heq
    simp [splitPower?, splitDigits?_append hdigits hrest]
  · rename_i hminus hplus
    obtain ⟨⟨digits, rest'⟩, hdigits, heq⟩ := Option.map_eq_some_iff.1 h
    obtain ⟨rfl, rfl⟩ := Prod.mk.inj heq
    cases cs with
    | nil => simp [splitDigits?] at hdigits
    | cons c cs =>
      have hc : c ≠ '-' := fun hc => hminus cs (by rw [hc])
      have hc' : c ≠ '+' := fun hc => hplus cs (by rw [hc])
      have hmore := splitDigits?_append hdigits hrest ds
      rw [List.cons_append] at hmore
      simp [splitPower?, hc, hc', hmore]

theorem splitExponent?_append {power : Bool × List Char}
    (h : splitExponent? cs = some (power, rest)) (hrest : rest ≠ []) (ds : List Char) :
    splitExponent? (cs ++ ds) = some (power, rest ++ ds) := by
  unfold splitExponent? at h
  split at h
  · exact splitPower?_append h hrest ds
  · exact splitPower?_append h hrest ds
  · rename_i hsmall hlarge
    obtain ⟨rfl, rfl⟩ := Prod.mk.inj (Option.some.inj h)
    obtain ⟨c, cs, rfl⟩ := List.exists_cons_of_ne_nil hrest
    have hc : c ≠ 'e' := fun hc => hsmall cs (by rw [hc])
    have hc' : c ≠ 'E' := fun hc => hlarge cs (by rw [hc])
    simp [splitExponent?, hc, hc']

theorem splitUnsigned?_append {negative : Bool} {n : Numeral}
    (h : splitUnsigned? negative cs = some (n, rest)) (hrest : rest ≠ []) (ds : List Char) :
    splitUnsigned? negative (cs ++ ds) = some (n, rest ++ ds) := by
  simp only [splitUnsigned?, Option.bind_eq_bind, Option.bind_eq_some_iff, Prod.exists,
    Option.some.injEq, Prod.mk.injEq] at h
  obtain ⟨whole, cs₁, hwhole, fraction, cs₂, hfraction, negative', exponent, cs₃, hexponent, rfl,
    rfl⟩ := h
  -- Each part leaves something over, because the part after it does.
  have hpos := List.length_pos_iff.2 hrest
  have hne₂ : cs₂ ≠ [] := List.length_pos_iff.1 (by have := length_splitExponent hexponent; omega)
  have hpos₂ := List.length_pos_iff.2 hne₂
  have hne₁ : cs₁ ≠ [] := List.length_pos_iff.1 (by have := length_splitFraction hfraction; omega)
  simp [splitUnsigned?, splitWhole?_append hwhole hne₁, splitFraction?_append hfraction hne₂,
    splitExponent?_append hexponent hrest]

theorem split?_append {n : Numeral} (h : split? cs = some (n, rest)) (hrest : rest ≠ [])
    (ds : List Char) : split? (cs ++ ds) = some (n, rest ++ ds) := by
  unfold split? at h
  split at h
  · exact splitUnsigned?_append h hrest ds
  · rename_i hminus
    have hmore := splitUnsigned?_append h hrest ds
    cases cs with
    | nil => simp [splitUnsigned?, splitWhole?, splitDigits?] at h
    | cons c cs =>
      have hc : c ≠ '-' := fun hc => hminus cs (by rw [hc])
      rw [List.cons_append] at hmore ⊢
      simp [split?, hc, hmore]

end Numeral

/-! ### Lexemes -/

theorem StringReading.run_append {r : StringReading} {cs rest : List Char} {s : Option String}
    (h : r.run cs = some (s, rest)) (ds : List Char) :
    r.run (cs ++ ds) = some (s, rest ++ ds) := by
  induction cs generalizing r with
  | nil => simp [run] at h
  | cons c cs ih =>
    rw [List.cons_append]
    simp only [run] at h ⊢
    split at h
    · rename_i hquote
      obtain ⟨rfl, rfl⟩ := Prod.mk.inj (Option.some.inj h)
      rw [if_pos hquote]
    · rename_i hquote
      rw [if_neg hquote]
      cases hnext : r.next? c with
      | none => simp [hnext] at h
      | some r' =>
        rw [hnext] at h
        exact ih h

namespace Lexeme

/-- A lexeme that the end of a text may have cut off: a numeral, or something broken. -/
def IsOpenEnded (l : Lexeme) : Prop := l = broken ∨ ∃ n, l = number n

theorem word_append {w cs rest : List Char} {l l' : Lexeme} (h : word w l cs = (l', rest))
    (hl : l' ≠ broken) (ds : List Char) : word w l (cs ++ ds) = (l', rest ++ ds) := by
  unfold word at h
  split at h
  · rename_i hprefix
    obtain ⟨rfl, rfl⟩ := Prod.mk.inj h
    obtain ⟨tail, rfl⟩ := List.isPrefixOf_iff_prefix.1 hprefix
    simp [word, List.append_assoc]
  · exact absurd (Prod.mk.inj h).1.symm hl

/-- The first lexeme of a text is the first one of every longer text, unless it reaches the end. -/
theorem first_append {c : Char} {cs rest : List Char} {l : Lexeme} (h : first c cs = (l, rest))
    (hl : ¬ l.IsOpenEnded ∨ (l ≠ broken ∧ rest ≠ [])) (ds : List Char) :
    first c (cs ++ ds) = (l, rest ++ ds) := by
  have hbroken : l ≠ broken := hl.elim (fun hl heq => hl (.inl heq)) And.left
  unfold first at h ⊢
  split at h
  case h_7 => exact word_append h hbroken ds
  case h_8 => exact word_append h hbroken ds
  case h_9 => exact word_append h hbroken ds
  case h_10 =>
    split at h
    · rename_i s rest' hrun
      obtain ⟨rfl, rfl⟩ := Prod.mk.inj h
      simp [StringReading.run_append hrun]
    · exact absurd (Prod.mk.inj h).1.symm hbroken
  case h_11 =>
    split at h
    · rename_i n rest' hsplit
      obtain ⟨rfl, rfl⟩ := Prod.mk.inj h
      have hrest : rest' ≠ [] := hl.elim (fun hl => absurd (.inr ⟨n, rfl⟩) hl) And.right
      have hmore := Numeral.split?_append hsplit hrest ds
      rw [List.cons_append] at hmore
      simp [hmore]
    · exact absurd (Prod.mk.inj h).1.symm hbroken
  all_goals
    obtain ⟨rfl, rfl⟩ := Prod.mk.inj h
    rfl

/-- Nothing is read after something broken. -/
theorem ofChars_cons_of_broken {c : Char} {cs rest : List Char} (hspace : isSpace c = false)
    (h : first c cs = (broken, rest)) : ofChars (c :: cs) = [broken] := by
  rw [ofChars]
  simp only [hspace, Bool.false_eq_true, if_false]
  split
  · rfl
  · rename_i hbroken heq
    exact absurd (Prod.mk.inj (heq.symm.trans h)).1 hbroken

/-- **The lexemes of a text and of a longer one** are the same, up to a last one that the end of the
text may have cut off. -/
theorem exists_ofChars_append (cs ds : List Char) :
    ∃ ls ends, ofChars cs = ls ++ ends ∧ ls <+: ofChars (cs ++ ds) ∧ ∀ l ∈ ends, l.IsOpenEnded := by
  induction cs using ofChars.induct with
  | case1 => exact ⟨[], [], by simp, List.nil_prefix, by simp⟩
  | case2 c cs hspace ih =>
    rw [List.cons_append, ofChars_cons_of_isSpace hspace, ofChars_cons_of_isSpace hspace]
    exact ih
  | case3 c cs hspace rest hfirst =>
    exact ⟨[], [broken], ofChars_cons_of_broken (Bool.eq_false_iff.2 hspace) hfirst,
      List.nil_prefix, by simp [IsOpenEnded]⟩
  | case4 c cs hspace l rest hbroken hfirst ih =>
    have hspace : isSpace c = false := Bool.eq_false_iff.2 hspace
    rw [ofChars_cons hspace hfirst hbroken]
    by_cases hends : l.IsOpenEnded ∧ rest = []
    · obtain ⟨hopen, rfl⟩ := hends
      exact ⟨[], [l], by simp, List.nil_prefix, by simpa using hopen⟩
    · have hmore : first c (cs ++ ds) = (l, rest ++ ds) := by
        refine first_append hfirst ?_ ds
        by_cases hopen : l.IsOpenEnded
        · exact .inr ⟨hbroken, fun hrest => hends ⟨hopen, hrest⟩⟩
        · exact .inl hopen
      obtain ⟨ls, ends, hls, hprefix, hopen⟩ := ih
      refine ⟨l :: ls, ends, by rw [hls]; rfl, ?_, hopen⟩
      rw [List.cons_append, ofChars_cons hspace hmore hbroken]
      exact List.cons_prefix_cons.2 ⟨rfl, hprefix⟩

end Lexeme

/-! ### Documents -/

/-- Whether a document is a list or record with its closing bracket. -/
def Document.isClosed : Document → Bool
  | .list _ closed | .record _ closed => closed
  | _ => false

namespace Reading

theorem isClosed_abandon {d : Document} (h : d.isClosed = false) (frames : List Frame) :
    (abandon d frames).isClosed = false := by
  induction frames generalizing d with
  | nil => exact h
  | cons frame frames ih => cases frame <;> exact ih rfl

theorem isClosed_breakOff (frames : List Frame) : (breakOff frames).isClosed = false := by
  unfold breakOff
  split <;> exact isClosed_abandon rfl _

theorem isClosed_breakUnclosed (frames : List Frame) :
    (breakUnclosed frames).isClosed = false := by
  unfold breakUnclosed
  split
  · exact isClosed_abandon rfl _
  · exact isClosed_breakOff _

theorem isClosed_stop (r : Reading) : r.stop.isClosed = false := by
  unfold stop
  split
  · exact isClosed_breakUnclosed _
  · exact isClosed_breakOff _

/-- What a lexeme leaves of a reading is closed only if the lexeme is a closing bracket. -/
def Closes (l : Lexeme) : Progress → Prop
  | .more _ => True
  | .complete d => d.isClosed = true → l = .closeList ∨ l = .closeRecord
  | .broken d => d.isClosed = false

theorem closes_complete {l : Lexeme} {d : Document} (frames : List Frame)
    (h : d.isClosed = true → l = .closeList ∨ l = .closeRecord) :
    Closes l (complete d frames) := by
  unfold complete
  split
  · exact h
  · trivial
  · trivial
  · exact isClosed_breakOff _

theorem closes_value (frames : List Frame) (l : Lexeme) : Closes l (value frames l) := by
  unfold value
  split
  case h_5 => trivial
  case h_6 => trivial
  case h_7 => exact isClosed_breakOff _
  all_goals exact closes_complete frames fun h => by simp [Document.isClosed] at h

theorem closes_name (frames : List Frame) (l : Lexeme) : Closes l (name frames l) := by
  unfold name
  split
  · split
    · trivial
    · exact isClosed_breakOff _
  · exact isClosed_breakOff _

theorem closes_separator (frames : List Frame) (l : Lexeme) : Closes l (separator frames l) := by
  unfold separator
  split
  · trivial
  · exact closes_complete _ fun _ => .inl rfl
  · trivial
  · exact closes_complete _ fun _ => .inr rfl
  · exact isClosed_breakUnclosed _

theorem closes_next (r : Reading) (l : Lexeme) : Closes l (r.next l) := by
  unfold next
  split
  · exact closes_value _ _
  · split
    · exact closes_separator _ _
    · exact closes_value _ _
  · exact closes_name _ _
  · split
    · exact closes_separator _ _
    · exact closes_name _ _
  · split
    · trivial
    · exact isClosed_breakOff _
  · exact closes_separator _ _

/-- **What is closed stays as it is when more follows.** It was closed by a bracket. -/
theorem run_append_of_isClosed {r : Reading} {ls rest : List Lexeme} {d : Document}
    (h : r.run ls = (d, rest)) (hclosed : d.isClosed = true) :
    (∃ before l, (l = .closeList ∨ l = .closeRecord) ∧ ls = before ++ l :: rest) ∧
      ∀ more, r.run (ls ++ more) = (d, rest ++ more) := by
  induction ls generalizing r with
  | nil =>
    obtain ⟨rfl, -⟩ := Prod.mk.inj h
    rw [isClosed_stop] at hclosed
    contradiction
  | cons l ls ih =>
    have hcloses := closes_next r l
    rw [run_cons] at h
    cases hnext : r.next l with
    | more r' =>
      rw [hnext] at h
      obtain ⟨⟨before, l', hl', rfl⟩, hmore⟩ := ih h
      refine ⟨⟨l :: before, l', hl', rfl⟩, fun more => ?_⟩
      rw [List.cons_append, run_cons, hnext]
      exact hmore more
    | complete d' =>
      rw [hnext] at h hcloses
      obtain ⟨rfl, rfl⟩ := Prod.mk.inj h
      refine ⟨⟨[], l, hcloses hclosed, rfl⟩, fun more => ?_⟩
      rw [List.cons_append, run_cons, hnext]
      rfl
    | broken d' =>
      rw [hnext] at h hcloses
      obtain ⟨rfl, rfl⟩ := Prod.mk.inj h
      exact absurd hclosed (by rw [hcloses]; simp)

end Reading

/-! ### Records -/

/-- The last character of a written record is its closing brace, and the last lexeme too. -/
theorem exists_write_record (l : Layout) (members : List (String × Json)) :
    ∃ cs, write l (.record members) = cs ++ ['\x7d'] ∧
      lexemes (.record members) = Lexeme.ofChars cs ++ [.closeRecord] := by
  cases members with
  | nil => exact ⟨['\x7b'], rfl, by rw [lexemes, Lexeme.ofChars_cons rfl rfl (by simp)]; simp⟩
  | cons member members =>
    obtain ⟨name, value⟩ := member
    have hend : EndsNumeral (l.newline ++ []) := Lexeme.endsNumeral_newline endsNumeral_nil
    refine ⟨'\x7b' :: (l.deeper.newline ++ quotedChars name ++ l.colon ++ write l.deeper value ++
      writeMembers l.deeper members ++ (l.newline ++ [])), by simp [write], ?_⟩
    rw [lexemes, Lexeme.ofChars_cons rfl rfl (by simp)]
    simp only [List.append_assoc, Lexeme.ofChars_newline, Lexeme.ofChars_quotedChars,
      Lexeme.ofChars_colon]
    rw [Lexeme.ofChars_write _ (Lexeme.endsNumeral_writeMembers hend members),
      Lexeme.ofChars_writeMembers _ hend, Lexeme.ofChars_newline, Lexeme.ofChars_nil]
    simp

namespace RecordForm

variable {ρ : Type} {f : RecordForm ρ}

theorem positional_of_not_closed (r : ρ) (fields : List (RecordField ρ)) (ds : List Document) :
    ∀ v, f.positional false r fields ds ≠ .ok v := by
  induction fields generalizing r ds with
  | nil => cases ds <;> simp [positional]
  | cons field fields ih =>
    cases ds with
    | nil => simp [positional]
    | cons d ds =>
      rw [positional]
      split
      · exact ih _ ds
      · simp

theorem named_of_not_closed (r : ρ) (seen : List String)
    (members : List (Option String × Document)) : ∀ v, f.named false r seen members ≠ .ok v := by
  induction members generalizing r seen with
  | nil => simp [named]
  | cons member members ih =>
    obtain ⟨_ | name, d⟩ := member
    · simp [named]
    · simp only [named]
      split
      · split
        · exact ih r seen
        · simp
      · split
        · simp
        · split
          · exact ih _ _
          · simp

end RecordForm

/-- What is read as a record is closed. -/
theorem Decoder.isClosed_of_record {ρ : Type} {f : RecordForm ρ} {d : Document} {v : ρ}
    (h : Decoder.record f d = .ok v) : d.isClosed = true := by
  unfold Decoder.record at h
  split at h
  · rename_i ds closed
    cases closed with
    | true => rfl
    | false => exact absurd h (f.positional_of_not_closed _ _ _ _)
  · rename_i members closed
    cases closed with
    | true => rfl
    | false => exact absurd h (f.named_of_not_closed _ _ _ _)
  · simp at h

/-- **No proper prefix of a written record is a record.** -/
theorem Decoder.decode_of_prefix_write {ρ : Type} (f : RecordForm ρ) (l : Layout)
    (members : List (String × Json)) {cs : List Char} (h : cs <+: write l (.record members))
    (hne : cs ≠ write l (.record members)) :
    ∃ e, (Decoder.record f).decode (String.ofList cs) = .error e := by
  obtain ⟨body, hwrite, hlexemes⟩ := exists_write_record l members
  rw [hwrite] at h hne
  obtain ⟨ds, hbody⟩ := (List.prefix_concat_iff.1 h).resolve_left hne
  obtain ⟨ls, ends, hcs, ⟨more, hmore⟩, hends⟩ := Lexeme.exists_ofChars_append cs ds
  rw [hbody] at hmore
  have hall : lexemes (.record members) = ls ++ (more ++ [.closeRecord]) := by
    rw [hlexemes, ← hmore, List.append_assoc]
  cases hdecode : (Decoder.record f).decode (String.ofList cs) with
  | error e => exact ⟨e, rfl⟩
  | ok v =>
    -- Everything was read, the last lexeme is a bracket, and so it is none that was cut off.
    obtain ⟨d, hrun, hd⟩ : ∃ d, Reading.start.run (ls ++ ends) = (d, []) ∧
        Decoder.record f d = .ok v := by
      simp only [decode, Document.ofString, String.toList_ofList, hcs] at hdecode
      generalize Reading.start.run (ls ++ ends) = done at hdecode
      obtain ⟨d, rest⟩ := done
      cases hd : Decoder.record f d with
      | error e => simp [hd] at hdecode
      | ok w => cases rest <;> simp_all
    have hclosed := Decoder.isClosed_of_record hd
    obtain ⟨⟨before, last, hlast, hsplit⟩, -⟩ := Reading.run_append_of_isClosed hrun hclosed
    have hends : ends = [] := by
      rcases List.eq_nil_or_concat ends with rfl | ⟨ends, l', rfl⟩
      · rfl
      · rw [List.concat_eq_append, ← List.append_assoc] at hsplit
        obtain rfl := List.singleton_inj.1 (List.append_inj_right' hsplit rfl)
        have := hends l' (by simp)
        rcases hlast with rfl | rfl <;> simp [Lexeme.IsOpenEnded] at this
    subst hends
    rw [List.append_nil] at hrun
    -- With more lexemes the same would have been read, and something would have been left over.
    have hwhole := Reading.run_lexemes [] [] (.record members)
    have hleft := (Reading.run_append_of_isClosed hrun hclosed).2 (more ++ [.closeRecord])
    rw [List.append_nil, hall] at hwhole
    have hrest := congrArg Prod.snd (hleft.symm.trans hwhole)
    simp [Reading.complete, Progress.goOn] at hrest

end SharedSheet.Json
