import BatchFetch.Proofs.Dispatch.Moves

/-! # Workers in line

The running batch serves its workers in line. A worker leaves the line only when it ends, so nobody is
passed over, and serving in line is one of the orders in which a batch can go on. -/

namespace BatchFetch.Batch

/-- Nobody leaves the line but worker `i`, when it ends. -/
def KeepsLine (i : Nat) (s t : State) : Prop := ∀ j ∈ s.line, j ∈ t.line ∨ j = i ∧ t.phase i = .done

section Line
variable {b : Batch} {s t : State} {i j : Nat}

theorem keepsLine_of_line_eq (h : t.line = s.line) : KeepsLine i s t := fun _ hj => Or.inl (h ▸ hj)

theorem mem_line_toEnd (hj : j ∈ s.line) : j ∈ (s.toEnd i).line := by
  show j ∈ s.line.erase i ++ [i]
  by_cases h : j = i
  · simp [h]
  · simp [(List.mem_erase_of_ne h).mpr hj]

theorem mem_line_givePermit (hj : j ∈ s.line) : j ∈ s.givePermit.line := by
  unfold State.givePermit
  dsimp only
  split
  · exact mem_line_toEnd (s := { s with free := s.free + 1 }) hj
  · exact hj

theorem keepsLine_sleep {p : Phase} {wake : Nat} : KeepsLine i s (s.sleep i p wake) := by
  intro j hj
  unfold State.sleep
  split
  · exact Or.inl (mem_line_toEnd (s := s.enter i p) hj)
  · exact Or.inl hj

theorem phase_exit {e : Exit} : (b.exit i e s).phase i = .done := by
  have h : (b.exit i e s).phases = s.phases.set i .done := (agrees_of_unqueued unqueued_exit).phases
  unfold State.phase
  rw [h, List.getElem?_set]
  by_cases hi : i < s.phases.length <;> simp [hi]

/-- A worker without a permit gives none back. -/
theorem exit_of_outside {e : Exit} (outside : ¬((s.phase i).isInside = true ∧ b.permits.isSome = true)) :
    b.exit i e s =
      { (s.enter i .done).leaveGate i with line := s.line.erase i, exits := s.exits ++ [(i, e)] } := if_neg outside

theorem keepsLine_exit {e : Exit} : KeepsLine i s (b.exit i e s) := by
  intro j hj
  by_cases h : j = i
  · exact Or.inr ⟨h, phase_exit⟩
  · refine Or.inl ?_
    unfold exit
    dsimp only
    split
    · exact mem_line_givePermit ((List.mem_erase_of_ne h).mpr hj)
    · exact (List.mem_erase_of_ne h).mpr hj

theorem keepsLine_conclude {retries : UInt32} {o : Outcome} : KeepsLine i s (b.conclude i retries o s) := by
  unfold conclude
  split
  · exact keepsLine_sleep
  · exact keepsLine_exit

theorem keepsLine_attempt {retries : UInt32} : KeepsLine i s (b.attempt i retries s) := by
  unfold attempt
  dsimp only
  split
  · exact fun j hj => keepsLine_conclude j hj
  · exact fun j hj => keepsLine_sleep j hj

theorem keepsLine_look {since : Nat} : KeepsLine i s (b.look i since s) := by
  unfold look
  split
  · exact fun j hj => keepsLine_attempt j hj
  · exact fun j hj => keepsLine_sleep j hj

theorem keepsLine_move : KeepsLine i s (b.move i s) := by
  unfold move
  split
  · split
    · exact keepsLine_exit
    · split
      · exact keepsLine_of_line_eq rfl
      · split <;> exact keepsLine_of_line_eq rfl
  · split
    · exact keepsLine_exit
    · exact keepsLine_of_line_eq rfl
  · split
    · exact keepsLine_exit
    · exact keepsLine_look
  · split
    · exact fun j hj => keepsLine_conclude j hj
    · split
      · exact fun j hj => keepsLine_conclude j hj
      · exact fun j hj => keepsLine_exit j hj
      · exact keepsLine_of_line_eq rfl
  · split
    · exact keepsLine_exit
    · exact keepsLine_attempt
  · exact keepsLine_of_line_eq rfl

/-- Every worker that has not ended stands in line. -/
def Lined (s : State) : Prop := ∀ i, s.phase i ≠ .done → i ∈ s.line

theorem lined_initial (b : Batch) : Lined b.initial := by
  intro i hi
  have := phase_of_done_le hi
  simpa [initial] using this

theorem Lined.move (h : Lined s) (m : Moved b i s (b.move i s)) : Lined (b.move i s) := by
  intro j hj
  have hline : j ∈ s.line := by
    refine h j fun hdone => ?_
    by_cases hij : i = j
    · exact m.before (hij ▸ hdone)
    · exact hj ((m.phase_of_ne hij).trans hdone)
  rcases keepsLine_move (b := b) (i := i) j hline with hmem | ⟨hij, hdone⟩
  · exact hmem
  · exact absurd (hij ▸ hdone) hj

theorem Lined.step (h : Lined s) (hs : Step b s t) : Lined t := by
  cases hs with
  | stop _ => exact h
  | move i can => exact h.move (moved_move can)
  | collect i e _ => exact h
  | wait later _ _ _ _ _ => exact h

theorem Reachable.lined (reach : Reachable b s) : Lined s := by
  induction reach with
  | start => exact lined_initial b
  | step _ hs ih => exact ih.step hs

/-! ### Serving in line -/

/-- What the next step of a running batch is. -/
inductive Next (b : Batch) (s : State) : State → Prop where
  | stop (due : b.stopDue s = true) : Next b s (b.stop s)
  | collect (i : Nat) (e : Exit) (rest : List (Nat × Exit)) (ready : b.stopDue s = false)
      (exits : s.exits = (i, e) :: rest) : Next b s (b.collect i e s)
  | move (i : Nat) (ready : b.stopDue s = false) (collected : s.exits = [])
      (first : s.line.find? s.canMove = some i) : Next b s (b.move i s)
  | wait (later : Nat) (ready : b.stopDue s = false) (collected : s.exits = [])
      (nobody : s.line.find? s.canMove = none) (going : s.isOver = false)
      (soonest : (b.wakeTimes s).min? = some later) : Next b s (s.advance later)

theorem next_iff : b.next s = some t ↔ Next b s t := by
  constructor
  · intro hn
    unfold next at hn
    split at hn
    · rename_i due
      cases hn
      exact .stop due
    · rename_i ready
      have ready : b.stopDue s = false := Bool.not_eq_true _ ▸ ready
      split at hn
      · rename_i i e rest hexits
        cases hn
        exact .collect i e rest ready hexits
      · rename_i hexits
        split at hn
        · rename_i i hfind
          cases hn
          exact .move i ready hexits hfind
        · rename_i hfind
          split at hn
          · cases hn
          · rename_i going
            obtain ⟨later, soonest, rfl⟩ := Option.map_eq_some_iff.mp hn
            exact .wait later ready hexits hfind (Bool.not_eq_true _ ▸ going) soonest
  · intro h
    cases h with
    | stop due => simp [next, due]
    | collect i e rest ready hexits => simp [next, ready, hexits]
    | move i ready collected first => simp [next, ready, collected, first]
    | wait later ready collected nobody going soonest => simp [next, ready, collected, nobody, going, soonest]

/-- Whoever could move would be found in line. -/
theorem Lined.idle (h : Lined s) (nobody : s.line.find? s.canMove = none) (i : Nat) : s.canMove i = false := by
  rw [← Bool.not_eq_true]
  intro can
  exact List.find?_eq_none.mp nobody i (h i fun done => by simp [State.canMove, done] at can) can

/-- The next step of a running batch is one of those that it can take. -/
theorem step_of_next (h : Lined s) (hn : b.next s = some t) : Step b s t := by
  cases next_iff.mp hn with
  | stop due => exact .stop due
  | collect i e rest _ hexits => exact .collect i e (by simp [hexits])
  | move i _ _ first => exact .move i (List.find?_some first)
  | wait later ready collected nobody going soonest =>
    exact .wait later ready (h.idle nobody) collected going soonest

theorem run_succ_of_some {n : Nat} (hn : b.next s = some t) : b.run (n + 1) s = b.run n t := by
  rw [Batch.run, hn]

theorem run_succ_of_none {n : Nat} (hn : b.next s = none) : b.run (n + 1) s = s := by
  rw [Batch.run, hn]

theorem run_add (k j : Nat) (s : State) : b.run (k + j) s = b.run j (b.run k s) := by
  induction k generalizing s with
  | zero => rw [Nat.zero_add, run]
  | succ k ih =>
    rw [Nat.add_right_comm]
    cases hn : b.next s with
    | some t => rw [run_succ_of_some hn, run_succ_of_some hn, ih]
    | none =>
      rw [run_succ_of_none hn, run_succ_of_none hn]
      cases j with
      | zero => rfl
      | succ j => exact (run_succ_of_none hn).symm

theorem Reachable.run (reach : Reachable b s) (n : Nat) : Reachable b (b.run n s) := by
  induction n generalizing s with
  | zero => exact reach
  | succ n ih =>
    unfold Batch.run
    split
    · rename_i t hn
      exact ih (reach.step (step_of_next reach.lined hn))
    · exact reach

/-- A batch that came to its end is over, and has come there by its steps. -/
theorem reachable_of_final (ended : b.final? = some s) : Reachable b s ∧ s.isOver = true := by
  unfold final? at ended
  dsimp only at ended
  split at ended
  · rename_i isOver
    cases ended
    exact ⟨Reachable.start.run fuel, isOver⟩
  · cases ended

end Line

end BatchFetch.Batch
