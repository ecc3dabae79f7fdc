import MessageBus.Proofs.Files.Place
/-!
Making directories. Whether it succeeds or not, it leaves everything that was there, and what is new
are directories on the way of the path.
-/
namespace MessageBus.Files
variable {f g h : Files} {p : Place} {path : Path} {e : Option SystemError}

/-- The path goes through the place, or ends there. -/
def Above (f : Files) (path : Path) (p : Place) : Prop :=
  ∃ names, names <+: path.parts ∧ f.enter (f.start path) names = .ok p

theorem Above.keeps (ha : f.Above path p) (hk : f.Keeps g) : g.Above path p := by
  obtain ⟨names, hnames, henter⟩ := ha
  refine ⟨names, hnames, ?_⟩
  rw [start_keeps hk]
  exact enter_keeps hk henter

theorem Above.parent (ha : f.Above path.parent p) : f.Above path p := by
  obtain ⟨names, hnames, henter⟩ := ha
  exact ⟨names, hnames.trans (List.dropLast_prefix _), henter⟩

/-- Everything stays, and only directories on the way of the path are new. -/
structure Grows (f g : Files) (path : Path) : Prop where
  home : g.home = f.home
  stays : ∀ p n, f.find? p = some n → g.find? p = some n
  new : ∀ p n, g.find? p = some n →
    f.find? p = some n ∨ n = .directory ∧ f.find? p = none ∧ g.Above path p

theorem Grows.refl (f : Files) (path : Path) : f.Grows f path :=
  ⟨rfl, fun _ _ hp => hp, fun _ _ hp => .inl hp⟩

theorem Grows.keeps (hg : f.Grows g path) : f.Keeps g := ⟨hg.home, fun p hp => hg.stays p _ hp⟩

/-- A place is as it was, or a directory on the way of the path is new there. -/
theorem Grows.find? (hg : f.Grows g path) (p : Place) :
    g.find? p = f.find? p ∨
      f.find? p = none ∧ g.find? p = some .directory ∧ g.Above path p := by
  cases hf : f.find? p with
  | some n => exact .inl (hg.stays p n hf)
  | none =>
    cases hp : g.find? p with
    | none => exact .inl rfl
    | some n =>
      obtain hold | ⟨rfl, -, habove⟩ := hg.new p n hp
      · cases hf.symm.trans hold
      · exact .inr ⟨rfl, rfl, habove⟩

theorem Grows.parent (hg : f.Grows g path.parent) : f.Grows g path := by
  refine ⟨hg.home, hg.stays, fun p n hp => ?_⟩
  obtain hold | ⟨hn, hnone, habove⟩ := hg.new p n hp
  · exact .inl hold
  · exact .inr ⟨hn, hnone, habove.parent⟩

theorem Grows.trans (hfg : f.Grows g path) (hgh : g.Grows h path) : f.Grows h path := by
  refine ⟨hgh.home.trans hfg.home, fun p n hp => hgh.stays p n (hfg.stays p n hp), ?_⟩
  intro p n hp
  obtain hold | ⟨hn, hnone, habove⟩ := hgh.new p n hp
  · obtain hold | ⟨hn, hnone, habove⟩ := hfg.new p n hold
    · exact .inl hold
    · exact .inr ⟨hn, hnone, habove.keeps hgh.keeps⟩
  · refine .inr ⟨hn, ?_, habove⟩
    cases hf : f.find? p with
    | none => rfl
    | some m => simp [hfg.stays p m hf] at hnone

theorem makeDirectory_grows (hm : f.makeDirectory path = .ok g) : f.Grows g path := by
  obtain ⟨⟨d, name?⟩, hlocate, hm⟩ := bind_ok.1 hm
  cases name? with
  | none => simp at hm
  | some name =>
    obtain ⟨node, hchild, hm⟩ := bind_ok.1 hm
    obtain ⟨hname, rfl⟩ := child_ok.1 hchild
    obtain ⟨-, hlast, hdots, henter⟩ := locate_ok.1 hlocate
    obtain ⟨names, hparts⟩ := List.getLast?_eq_some_iff.1 hlast
    rw [hparts, List.dropLast_concat] at henter
    cases hfree : f.find? (d ++ [name]) with
    | some n => simp [hfree] at hm
    | none =>
      have hg : g = f.put (d ++ [name]) .directory := by
        simpa [hfree, pure, Except.pure, eq_comm] using hm
      subst hg
      have hk : f.Keeps (f.put (d ++ [name]) .directory) := keeps_put _ (by simp [hfree])
      refine ⟨rfl, fun p n hp => ?_, fun p n hp => ?_⟩
      · have hne : p ≠ d ++ [name] := by
          rintro rfl
          simp [hfree] at hp
        rw [find?_put_of_ne _ _ hne, hp]
      · by_cases hne : p = d ++ [name]
        · subst hne
          have hnew := find?_put f .directory (p := d ++ [name]) (by simp)
          refine .inr ⟨by simpa [hnew, eq_comm] using hp, hfree, path.parts, List.prefix_refl _, ?_⟩
          rw [hparts, start_keeps hk, enter_append (enter_keeps hk henter)]
          exact (enter_cons hdots).2 ⟨hname, hnew, rfl⟩
        · rw [find?_put_of_ne _ _ hne] at hp
          exact .inl hp

theorem settle_grows {r : Except SystemError Files} (hr : ∀ g, r = .ok g → f.Grows g path)
    (hs : makeDirectories.settle f path r = (e, g)) : f.Grows g path := by
  unfold makeDirectories.settle at hs
  split at hs
  · cases hs
    exact hr _ rfl
  · split at hs <;> cases hs <;> exact .refl f path

theorem makeDirectories_grows {fuel : Nat} (hm : f.makeDirectories fuel path = (e, g)) :
    f.Grows g path := by
  induction fuel generalizing path e g with
  | zero =>
    cases hm
    exact .refl f path
  | succ fuel ih =>
    unfold makeDirectories at hm
    split at hm
    · rename_i hmade
      cases hm
      exact makeDirectory_grows hmade
    · split at hm
      · split at hm
        · cases hm
          exact .refl f path
        · split at hm
          · rename_i habove
            cases hm
            exact (ih habove).parent
          · rename_i habove
            exact (ih habove).parent.trans (settle_grows (fun _ => makeDirectory_grows) hm)
      · exact settle_grows (by simp) hm

end MessageBus.Files
