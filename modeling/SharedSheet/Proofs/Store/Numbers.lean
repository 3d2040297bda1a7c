import SharedSheet.Proofs.Store.Keeper

/-!
# Numbers of updates

The log numbers its updates. Callers ask for what is newer than the last number they have seen, so
a number that was given before must not be given again.

It can be. The number that the store gives next is in memory, and an append does not write it to the
registry's file: it is recovered from the entries in the log. An update of a sheet that is not there
is an orphan from the beginning, which the next opening drops. That program still knows its number,
but if it ends before it appends anything or changes the registry, the number is in no file any more.

This is the only way. If whenever a program ends the newest entry of its book is one of a sheet that
is there, all numbers ascend, over any calls and openings, and also if accesses to files are refused
and programs crash.

## Main results

* `Keeper.updateIds_history` — numbers of updates ascend if all programs end well
* `Keeper.updateIds_reopened` — how a number is given again
-/

namespace SharedSheet

namespace Keeper

variable {events : List StoreEvent}

/-- **Numbers of updates ascend**, if whenever a program ends the newest entry of its book is one of
a sheet that is there. -/
theorem updateIds_history (hfit : StoreEvent.Fit events) (hends : EndsWell {} events) :
    (StoreAnswer.updateIds (history events).2).Pairwise (· < ·) := by
  obtain ⟨u, b, -, hascends⟩ := (knows_empty False).run_endsWell (.empty hfit) hends
  exact hascends.pairwise

/-- The life of a store: an update of a sheet, another one of which five bytes are written when the
program crashes, and after that one more. -/
def crashingLife : List StoreEvent :=
  [.start, .call (.insertSheet ⟨"ana", "plan"⟩ .everyone),
    .call (.append (StoreCall.updateOf 1 .epoch)),
    .crash (.append (StoreCall.updateOf 1 .epoch)) 0 (some 5), .start,
    .call (.append (StoreCall.updateOf 1 .epoch))]

theorem updateIds_crashingLife : StoreEvent.Fit crashingLife ∧ EndsWell {} crashingLife ∧
    (StoreAnswer.updateIds (history crashingLife).2).Pairwise (· < ·) := by
  have hfit : StoreEvent.Fit crashingLife := ⟨by decide, by decide⟩
  have hends : EndsWell {} crashingLife := by
    refine .cons_of_not_ends (.inr rfl) (.cons_of_not_ends (.inl rfl) (.cons_of_not_ends (.inl rfl)
      (.cons (fun _ b hb => ?_) (.cons_of_not_ends (.inr rfl) (.cons_of_not_ends (.inl rfl)
        (.nil _))))))
    -- Only the crash ends a program.
    obtain rfl := Option.some.inj hb
    intro e he
    obtain rfl := Option.some.inj he
    rfl
  exact ⟨hfit, hends, updateIds_history hfit hends⟩

theorem fits_empty : Registry.Fits {} := ⟨by simp, by decide, by decide⟩

/-- An update of a sheet that is not there is an orphan. After the next opening its number is known
to the program alone. -/
theorem history_orphan {d : Draft} (hsheet : d.sheet < UInt64.size) :
    ∃ disk : Disk, disk.Holds {} [] ∧ disk.Steady ∧
      history [.start, .call (.append d), .start] =
        (⟨disk, some ⟨{ lastUpdateId := 1 }, []⟩⟩, [.entry (Book.nextEntry {} d)]) := by
  have hopened : step {} .start = (⟨{}, some {}⟩, none) := rfl
  obtain ⟨d₁, hd₁, hsteady₁, hfirst⟩ :=
    step_append_of_holds Disk.holds_empty (fun _ => rfl) {} d
  have hread : LogFile.Readable ([] ++ [Book.nextEntry {} d]) :=
    .concat .nil (by simp) ⟨show 1 < UInt64.size by decide, hsheet⟩
  obtain ⟨d₂, hd₂, hsteady₂, hagain⟩ : ∃ d₂, d₂.Holds {} [] ∧ d₂.Steady ∧
      step ⟨d₁, some (Book.append d {}).2⟩ .start =
        (⟨d₂, some ⟨{ lastUpdateId := 1 }, []⟩⟩, none) :=
    step_start_of_tells (hd₁.tells hread) hsteady₁ fits_empty _
  refine ⟨d₂, hd₂, hsteady₂, ?_⟩
  simp only [history, run, hopened, hfirst, hagain]
  rfl

/-- The first number is given if nothing is in the files, whatever the program knew. -/
theorem updateIds_of_holds_empty {disk : Disk} (hdisk : disk.Holds {} []) (hsteady : disk.Steady)
    (b? : Option Book) (d : Draft) :
    StoreAnswer.updateIds (run ⟨disk, b?⟩ [.start, .call (.append d)]).2 = [1] := by
  obtain ⟨d₁, hd₁, hsteady₁, hopened⟩ : ∃ d₁, d₁.Holds {} [] ∧ d₁.Steady ∧
      step ⟨disk, b?⟩ .start = (⟨d₁, some {}⟩, none) :=
    step_start_of_tells (hdisk.tells .nil) hsteady fits_empty b?
  obtain ⟨d₂, -, -, hnew⟩ := step_append_of_holds hd₁ hsteady₁ {} d
  simp only [run, hopened, hnew]
  rfl

/-- **How a number is given again.** An update of a sheet that is not there gets it, the store is
opened twice, and the next update gets it too. -/
theorem updateIds_reopened {d : Draft} (hsheet : d.sheet < UInt64.size) :
    StoreAnswer.updateIds (history
      [.start, .call (.append d), .start, .start, .call (.append d)]).2 = [1, 1] := by
  obtain ⟨disk, hdisk, hsteady, horphan⟩ := history_orphan hsheet
  have hsplit : history [.start, .call (.append d), .start, .start, .call (.append d)] =
      run {} ([.start, .call (.append d), .start] ++ [.start, .call (.append d)]) := rfl
  rw [history] at horphan
  rw [hsplit, run_append, horphan, StoreAnswer.updateIds_append,
    updateIds_of_holds_empty hdisk hsteady]
  rfl

theorem not_forall_updateIds_ascend : ¬ ∀ events : List StoreEvent, StoreEvent.Fit events →
    (∀ event ∈ events, event = .start ∨ ∃ c, event = .call c) →
    (StoreAnswer.updateIds (history events).2).Pairwise (· < ·) := by
  intro h
  have hids := updateIds_reopened (d := StoreCall.updateOf 7 .epoch) (by decide)
  have hascend := h [.start, .call (.append (StoreCall.updateOf 7 .epoch)), .start, .start,
    .call (.append (StoreCall.updateOf 7 .epoch))] ⟨by decide, by decide⟩ (by simp)
  rw [hids] at hascend
  simp at hascend

end Keeper

end SharedSheet
