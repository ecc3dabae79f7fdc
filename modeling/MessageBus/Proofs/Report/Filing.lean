import MessageBus.Report.Target
import MessageBus.Proofs.Template.Parts
/-!
Filing of reports whose wording only takes texts in. A target that is open for it takes such a report
as it is.
-/
namespace MessageBus.Report

/-- The target takes a report, or is not there. -/
def Target.Open (t : Target) : Prop := t = .absent ∨ t = .clear ∨ t = .exhausted

/-- The target once it took a report. One that has no memory for it takes the report of that instead. -/
def Target.taking (report : Report) : Target → Target
  | .clear => .holding report
  | .exhausted => .holding noMemory
  | t => t

theorem open_absent : Target.absent.Open := .inl rfl

theorem open_clear : Target.clear.Open := .inr (.inl rfl)

theorem open_exhausted : Target.exhausted.Open := .inr (.inr rfl)

/-- A target is open, or it holds a report. -/
theorem open_or_holding (target : Target) : target.Open ∨ ∃ held, target = .holding held := by
  cases target with
  | absent => exact .inl open_absent
  | clear => exact .inl open_clear
  | exhausted => exact .inl open_exhausted
  | holding held => exact .inr ⟨held, rfl⟩

variable {target : Target} {parts : List Template.Part} {kind : Kind}

theorem file_parts (ht : target.Open) (h : ∀ part ∈ parts, part.Plain) {template text : String}
    {arguments : List Value} (htemplate : template.toList = parts.flatMap Template.Part.written)
    (harguments : arguments = parts.flatMap Template.Part.arguments)
    (htext : text.toList = parts.flatMap Template.Part.shown) :
    target.file kind (.filled template arguments) = .ok (target.taking ⟨kind, text, true⟩) := by
  have hfill : Template.fill template arguments = .ok text := by
    have := Template.fill_parts h
    rwa [← htemplate, ← harguments, ← htext, String.ofList_toList, String.ofList_toList] at this
  obtain rfl | rfl | rfl := ht
  · rfl
  · simp [Target.file, ofWording, Wording.text, hfill, Target.taking]
  · simp [Target.file, ofWording, Wording.text, hfill, Target.taking]

/-- A sentence that ends with a text in quotation marks. -/
theorem file_quoted (lead : String) (ht : target.Open) (hlead : '%' ∉ lead.toList)
    (subject : String) :
    target.file kind (.filled (lead ++ " \"%s\"") [.text subject]) =
      .ok (target.taking ⟨kind, lead ++ " \"" ++ subject ++ "\"", true⟩) := by
  apply @file_parts _ [.fixed lead, .fixed " \"", .filled subject, .fixed "\""] _ ht
  · simp [Template.Part.Plain, hlead]
  · simp [Template.Part.written]
  · simp [Template.Part.arguments]
  · simp [Template.Part.shown]

/-- A sentence about a part of a text. -/
theorem file_quoted_in (lead : String) (ht : target.Open) (hlead : '%' ∉ lead.toList)
    (part subject : String) :
    target.file kind (.filled (lead ++ " \"%s\" in \"%s\"") [.text part, .text subject]) =
      .ok (target.taking ⟨kind, lead ++ " \"" ++ part ++ "\" in \"" ++ subject ++ "\"", true⟩) := by
  apply @file_parts _
    [.fixed lead, .fixed " \"", .filled part, .fixed "\" in \"", .filled subject, .fixed "\""] _ ht
  · simp [Template.Part.Plain, hlead]
  · simp [Template.Part.written]
  · simp [Template.Part.arguments]
  · simp [Template.Part.shown]

/-- A sentence about a text, with the reason behind it. -/
theorem file_because (lead : String) (ht : target.Open) (hlead : '%' ∉ lead.toList)
    (subject reason : String) :
    target.file kind (.filled (lead ++ " \"%s\": %s") [.text subject, .text reason]) =
      .ok (target.taking ⟨kind, lead ++ " \"" ++ subject ++ "\": " ++ reason, true⟩) := by
  apply @file_parts _
    [.fixed lead, .fixed " \"", .filled subject, .fixed "\": ", .filled reason] _ ht
  · simp [Template.Part.Plain, hlead]
  · simp [Template.Part.written]
  · simp [Template.Part.arguments]
  · simp [Template.Part.shown]

end MessageBus.Report
