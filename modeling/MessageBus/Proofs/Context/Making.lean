import MessageBus.Proofs.Context.Abandoned
/-!
The files that a start makes. If it ends with a context they stand in the tree, and if it ends without one
they are gone. It logs no error, unless it cannot tell what stands at the path of a listen address.
-/
namespace MessageBus.Context
variable {path : String} {target after : Report.Target} {w w' w₁ : World} {out : StepEnd}
  {addresses : List Address} {ls : List Listener} {made : Option Context} {settings : Settings}
  {c : Context} {names more : List String}

/-- The paths at which a start makes files: those of its context, or the sockets up to the step where it
stops. -/
inductive Makes (path : String) (w : World) : List String → Prop
  | built {c : Context} {w₁ : World} (hbuilt : Built path w c w₁) : Makes path w c.paths
  | stopped {out : StepEnd} {addresses : List Address} {ls : List Listener} {made : Option Context}
      {w₁ : World} (hstops : Stops path w out addresses ls made w₁) :
      Makes path w (socketNames ls)

/-- It cannot be told what stands at the path of the listen address that is next, and that is logged. -/
def Complains (path : String) (w : World) : Prop :=
  ∃ settings before text rest w₁ addresses ls w₂ a, Loaded path w settings w₁ ∧
    settings.listen = before ++ text :: rest ∧ Bound before w₁ addresses ls w₂ ∧
    Address.parse text = .ok a ∧ World.Unchecked a w₂

/-- So many errors are logged from one world to a later one: one if the start complains, and none
otherwise. -/
def Complaining (path : String) (w w' : World) : Prop :=
  (Complains path w ∧ w.Proceeds 1 w') ∨ (¬ Complains path w ∧ w.Proceeds 0 w')

theorem exists_makes (path : String) (w : World) : ∃ names, Makes path w names := by
  obtain ⟨c, w₁, hbuilt⟩ | ⟨out, addresses, ls, made, w₁, hstops⟩ := built_or_stops path w
  · exact ⟨_, .built hbuilt⟩
  · exact ⟨_, .stopped hstops⟩

/-- The files that a start makes are those of the context that it would leave to itself. -/
theorem Makes.eq (h : Makes path w names) (held : Report) :
    names = ((attempt path (.holding held) w).2.1.map paths).getD [] := by
  cases h with
  | built hbuilt =>
    rw [attempt_of_built hbuilt]
    split <;> rfl
  | stopped hstops =>
    rw [attempt_of_stops_holding hstops]
    obtain ⟨-, -, ⟨rfl, rfl⟩ | ⟨settings, rfl⟩⟩ := stops_left hstops
    · rfl
    · simp [paths, listeningOn, new]

/-- A start makes the same files in the same world. -/
theorem Makes.unique (h : Makes path w names) (h' : Makes path w more) : names = more :=
  have held : Report := ⟨.failed, "", false⟩
  (h.eq held).trans (h'.eq held).symm

theorem countP_warnings (unreadable : List Nat) :
    (unreadable.map fun line => (⟨.warning, "dotenv.main",
      "python-dotenv could not parse statement starting at line " ++ toString line⟩ : Log.Record)).countP
        (·.level == .error) = 0 := by
  rw [List.countP_eq_zero]
  intro r hr
  obtain ⟨line, -, rfl⟩ := List.mem_map.1 hr
  simp

theorem loadEnvironment_proceeds (w : World) : w.Proceeds 0 (loadEnvironment w).2 := by
  unfold loadEnvironment
  split
  · exact .refl w
  · split
    · exact .refl w
    · rename_i text _ _
      refine ⟨rfl, ?_, rfl, rfl⟩
      dsimp only
      split
      · exact ⟨_, rfl, countP_warnings _⟩
      · exact ⟨[], by simp, rfl⟩

theorem loaded_proceeds (h : Loaded path w settings w₁) : w.Proceeds 0 w₁ := by
  obtain ⟨w₀, entries, henvironment, -, -, rfl⟩ := h
  have hloaded := loadEnvironment_proceeds w
  rw [henvironment] at hloaded
  exact hloaded.trans (World.proceeds_record _ rfl)

theorem bound_proceeds {texts : List String} (h : Bound texts w addresses ls w') : w.Proceeds 0 w' := by
  induction h with
  | nil w => exact .refl w
  | @cons _ _ w _ _ a _ _ _ _ hbind _ ih =>
    have hbound := World.proceeds_bind a w
    rw [hbind] at hbound
    obtain ⟨-, -, e, hfails⟩ | ⟨-, hbound⟩ := hbound
    · cases hfails
    · exact (hbound.trans (World.proceeds_record _ rfl)).trans ih

theorem built_proceeds (h : Built path w c w') : w.Proceeds 0 w' := by
  obtain ⟨settings, w₁, addresses, ls, w₂, hload, hbound, hpid⟩ := h
  refine ((loaded_proceeds hload).trans (bound_proceeds hbound)).quiet ?_
  have hpid := hpid .absent
  unfold writePidFile at hpid
  split at hpid
  · cases hpid
    exact .refl _
  · dsimp only at hpid
    split at hpid <;> cases hpid
    exact (World.proceeds_files _ _).trans (World.proceeds_record _ rfl)

/-! ### Complaints -/

theorem stuck_of_unchecked {text : String} {a : Address} (hparse : Address.parse text = .ok a)
    (h : World.Unchecked a w) : Stuck text w := by
  obtain ⟨-, -, e, hfails⟩ | ⟨hchecked, -⟩ := World.proceeds_bind a w
  · exact .inr ⟨a, _, _, hparse, Prod.ext hfails rfl⟩
  · exact absurd h hchecked

/-- The settings of a start that complains are those that are loaded. -/
theorem complains_loaded (hload : Loaded path w settings w₁) :
    Complains path w ↔ ∃ before text rest addresses ls w₂ a, settings.listen = before ++ text :: rest ∧
      Bound before w₁ addresses ls w₂ ∧ Address.parse text = .ok a ∧ World.Unchecked a w₂ := by
  constructor
  · rintro ⟨settings', before, text, rest, w₂, addresses, ls, w₃, a, hload', h⟩
    have hread : readSettings path .absent w = (.ok settings, w₁) := readSettings_of_loaded hload
    have hsame := hread.symm.trans (readSettings_of_loaded hload')
    cases hsame
    exact ⟨before, text, rest, addresses, ls, w₃, a, h⟩
  · rintro ⟨before, text, rest, addresses, ls, w₂, a, h⟩
    exact ⟨settings, before, text, rest, w₁, addresses, ls, w₂, a, hload, h⟩

theorem not_complains_of_bound {w₂ : World} (hload : Loaded path w settings w₁)
    (hbound : Bound settings.listen w₁ addresses ls w₂) : ¬ Complains path w := by
  rw [complains_loaded hload]
  rintro ⟨before, text, rest, _, _, w₃, a, hlisten, hbefore, hparse, hunchecked⟩
  exact hbound.not_stuck hbefore hlisten (stuck_of_unchecked hparse hunchecked)

theorem not_complains_of_built (h : Built path w c w') : ¬ Complains path w := by
  obtain ⟨settings, w₁, addresses, ls, w₂, hload, hbound, -⟩ := h
  exact not_complains_of_bound hload hbound

theorem not_complains_of_not_loaded {setback : Setback}
    (h : (readSettings path .absent w).1 = .error setback) : ¬ Complains path w := by
  rintro ⟨settings, _, _, _, w₁, _, _, _, _, hload, -⟩
  rw [readSettings_of_loaded hload] at h
  cases h

theorem stops_complaining (h : Stops path w out addresses ls made w₁) : Complaining path w w₁ := by
  have hloaded := loadEnvironment_proceeds w
  cases h with
  | environment henvironment =>
    rw [henvironment] at hloaded
    exact .inr ⟨not_complains_of_not_loaded (by simp [readSettings, henvironment]; rfl), hloaded⟩
  | @reading fault _ henvironment hread =>
    rw [henvironment] at hloaded
    refine .inr ⟨not_complains_of_not_loaded (by simp [readSettings, henvironment, hread]; rfl), ?_⟩
    refine hloaded.quiet ⟨rfl, ⟨fault.records _ path, rfl, ?_⟩, rfl, rfl⟩
    unfold Settings.ReadFault.records
    split <;> rfl
  | settings henvironment hread hmake =>
    rw [henvironment] at hloaded
    exact .inr ⟨not_complains_of_not_loaded (by simp [readSettings, henvironment, hread, hmake]; rfl),
      hloaded⟩
  | @address _ _ _ _ _ _ _ _ fault hload hlisten hbound hparse =>
    refine .inr ⟨?_, (loaded_proceeds hload).trans (bound_proceeds hbound)⟩
    rw [complains_loaded hload]
    rintro ⟨before, text, rest, _, _, w₃, a, hlisten', hbound', hparse', hunchecked⟩
    obtain ⟨rfl, rfl⟩ := hbound.stuck_unique hbound' (hlisten.symm.trans hlisten') (.inl ⟨fault, hparse⟩)
      (stuck_of_unchecked hparse' hunchecked)
    cases hparse.symm.trans hparse'
  | @listening _ before rest text _ w₂ _ addresses ls a failure hload hlisten hbound hparse hbind =>
    have hrefused := World.proceeds_bind a w₂
    rw [hbind] at hrefused
    have hbefore := (loaded_proceeds hload).trans (bound_proceeds hbound)
    obtain ⟨hunchecked, hrefused, -⟩ | ⟨hchecked, hrefused⟩ := hrefused
    · refine .inl ⟨?_, hbefore.trans hrefused⟩
      exact (complains_loaded hload).2 ⟨before, text, rest, addresses, ls, w₂, a, hlisten, hbound, hparse,
        hunchecked⟩
    · refine .inr ⟨?_, hbefore.trans hrefused⟩
      rw [complains_loaded hload]
      rintro ⟨before', text', rest', _, _, w₃, a', hlisten', hbound', hparse', hunchecked⟩
      obtain ⟨rfl, rfl⟩ := hbound.stuck_unique hbound' (hlisten.symm.trans hlisten')
        (.inr ⟨a, failure, _, hparse, hbind⟩) (stuck_of_unchecked hparse' hunchecked)
      cases hparse.symm.trans hparse'
      exact hchecked hunchecked
  | pidFile hload hbound =>
    exact .inr ⟨not_complains_of_bound hload hbound,
      ((loaded_proceeds hload).trans (bound_proceeds hbound)).trans (World.proceeds_files _ _)⟩

theorem Complaining.quiet (h : Complaining path w w₁) (h' : w₁.Proceeds 0 w') : Complaining path w w' := by
  obtain ⟨hcomplains, h⟩ | ⟨hcalm, h⟩ := h
  · exact .inl ⟨hcomplains, h.quiet h'⟩
  · exact .inr ⟨hcalm, h.quiet h'⟩

/-! ### The end of a start -/

/-- A start that ends without a context leaves none of its files but for a pid file that was cut short, and
closes its loop. -/
theorem attempt_none (ht : target.Open) (h : attempt path target w = (.ok (none, after), made, w')) :
    (∀ names, Makes path w names → ∀ name ∈ names, w'.files.look (.ofText name) = .error .notFound) ∧
    (∀ p node, w'.files.find? p = some node → node = .directory ∨ w.files.find? p = some node ∨
      ∃ name, CutShort w.platform name w'.files p) ∧
    (∀ c, made = some c → c.loop.closed = true) ∧ Complaining path w w' := by
  obtain ⟨obstacle, addresses, ls, made₁, w₁, hstops, -, -, -, hclosed, hclean, hproceeds⟩ :=
    stops_of_attempt_none ht h
  refine ⟨fun names hmakes name hname => ?_, fun p node hp => ?_, hclosed,
    (stops_complaining hstops).quiet hproceeds⟩
  · obtain rfl := hmakes.unique (.stopped hstops)
    obtain ⟨l, hl, hsocket⟩ := List.mem_filterMap.1 hname
    exact hclean.gone l hl name hsocket
  · obtain hwas | ⟨rfl, -⟩ | ⟨name, e, -, hcut⟩ := hclean.new p node hp
    · exact .inr (.inl hwas)
    · exact .inl rfl
    · exact .inr (.inr ⟨name, hcut⟩)

/-- A start that ends with a context is built as a whole, and its files stand. -/
theorem attempt_some (h : attempt path target w = (.ok (some c, after), made, w')) :
    ∃ w₁, Built path w c w₁ ∧ c.announceReady w₁ = .ok w' ∧ Standing w'.files c.paths ∧
      ¬ Complains path w ∧ w.Proceeds 0 w' := by
  obtain ⟨c₁, w₁, hbuilt⟩ | ⟨out, addresses, ls, made₁, w₁, hstops⟩ := built_or_stops path w
  · have hattempt := @attempt_of_built _ target _ _ _ hbuilt
    rw [h] at hattempt
    split at hattempt
    · rename_i w₂ hready
      cases hattempt
      obtain ⟨-, r, hlevel, rfl⟩ := announceReady_ok hready
      have hlogged : (r.level == Log.Level.error) = false := by rw [hlevel]; rfl
      have hstanding := built_standing hbuilt
      exact ⟨w₁, hbuilt, hready, hstanding, not_complains_of_built hbuilt,
        (built_proceeds hbuilt).trans (World.proceeds_record _ hlogged)⟩
    · cases hattempt
  · obtain ht | ⟨held, rfl⟩ := Report.open_or_holding target
    · cases out with
      | error failure =>
        have hattempt := attempt_of_stops ht hstops
        rw [h] at hattempt
        cases hattempt
      | ok obstacle =>
        obtain ⟨-, _, _, hattempt, -⟩ | ⟨_, _, _, _, _, -, -, hattempt, -⟩ := attempt_of_obstacle ht hstops
        · rw [h] at hattempt
          cases hattempt
        · rw [h] at hattempt
          cases hattempt
    · rw [attempt_of_stops_holding hstops] at h
      cases h

/-- A start whose context is known by computing it. -/
theorem started_of_some (h : (start path .clear w).1.toOption.bind (·.1) = some c) :
    start path .clear w = (.ok (some c, .clear), (start path .clear w).2) := by
  rcases hstart : start path .clear w with ⟨failure | ⟨none | c', target⟩, w'⟩
  · rw [hstart] at h
    cases h
  · rw [hstart] at h
    cases h
  · rw [hstart] at h
    cases h
    rw [start_target_of_some hstart]

end MessageBus.Context
