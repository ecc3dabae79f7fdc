import MessageBus.Template
import MessageBus.Proofs.Result
/-!
Templates that only take texts and whole numbers in. Filling one gives the fixed parts with the texts
between them as they are, whatever is written in those, and with the numbers in decimal. It never fails
but for a number that is too long to be written.
-/
namespace MessageBus.Template

/-- A part of a template: fixed text, or a place that a text or a number fills. -/
inductive Part
  | fixed (text : String)
  | filled (text : String)
  | number (n : Int)

namespace Part

/-- How the part stands in the template. -/
def written : Part → List Char
  | fixed text => text.toList
  | filled _ => ['%', 's']
  | number _ => ['%', 'd']

/-- What stands there once the template is filled. -/
def shown : Part → List Char
  | fixed text | filled text => text.toList
  | number n => (Number.decimal n).toList

/-- The argument that the part takes. -/
def arguments : Part → List Value
  | fixed _ => []
  | filled text => [.text text]
  | number n => [.int n]

/-- A fixed text has no percent sign, and a number can be written. -/
def Plain : Part → Prop
  | fixed text => '%' ∉ text.toList
  | filled _ => True
  | number n => Number.tooLong n = false

end Part

variable {c : Char} {cs : List Char} {length steps : Nat}

theorem pieces_char (hc : c ≠ '%') :
    pieces length (steps + 1) (c :: cs) = .text c :: pieces length steps cs := by
  rw [pieces]
  · simp_all
  · simp_all

theorem pieces_slot {form : Char} (hform : form = 's' ∨ form = 'd') :
    ∃ position, pieces length (steps + 1) ('%' :: form :: cs) =
      .directive ⟨.none, {}, .none, .none, some form, position⟩ :: pieces length steps cs := by
  rw [pieces]
  · obtain rfl | rfl := hform <;>
      simp [takeDirective, takeFlags, takeMeasure, takePrecision, dropSizeLetter, Text.isAsciiDigit]
  · obtain rfl | rfl := hform <;> simp

theorem splitSign_append (body : List Char) : (splitSign {} body).1 ++ (splitSign {} body).2 = body := by
  unfold splitSign
  split <;> simp

theorem layOut_plain (form : Char) (numeric : Bool) (body : List Char) :
    layOut form {} 0 numeric body = body := by
  cases numeric with
  | false => simp [layOut]
  | true => simp [layOut, splitMark, splitSign_append]

theorem fill_slot (text : String) (rest : List Value) (position : Nat) :
    Directive.fill ⟨.none, {}, .none, .none, some 's', position⟩ ⟨.text text :: rest, none⟩ =
      .ok (text.toList, ⟨rest, none⟩) := by
  have hbody : body 's' position false none (.text text) = .ok (false, text.toList) := by
    simp [body, Value.plain?_text, textBody, Except.map, mapError_ok]
  simp [Directive.fill, Supply.select, Supply.width, Supply.precision, Supply.next, hbody,
    layOut_plain, bind, Except.bind]

theorem decimal_toList (n : Int) :
    (Number.decimal n).toList = Number.signText (n < 0) ++ Nat.toDigits 10 n.natAbs := by
  cases n with
  | ofNat n => simp [Number.decimal, Number.signText]
  | negSucc n => simp [Number.decimal, Number.signText, Int.negSucc_lt_zero]

theorem integerBody_decimal {n : Int} (h : Number.tooLong n = false) :
    integerBody 'd' false none n = .ok (Number.decimal n).toList := by
  unfold integerBody
  rw [h, decimal_toList]
  simp

theorem fill_number {n : Int} (h : Number.tooLong n = false) (rest : List Value) (position : Nat) :
    Directive.fill ⟨.none, {}, .none, .none, some 'd', position⟩ ⟨.int n :: rest, none⟩ =
      .ok ((Number.decimal n).toList, ⟨rest, none⟩) := by
  have hbody : body 'd' position false none (.int n) = .ok (true, (Number.decimal n).toList) := by
    simp [body, integerOf, Value.number?, integerBody_decimal h, bind, Except.bind, pure, Except.pure]
  simp [Directive.fill, Supply.select, Supply.width, Supply.precision, Supply.next, hbody,
    layOut_plain, bind, Except.bind]

theorem fillPieces_slot {form : Char} {shown tail : List Char} {s s' : Supply}
    (hform : form = 's' ∨ form = 'd')
    (hfill : ∀ position, Directive.fill ⟨.none, {}, .none, .none, some form, position⟩ s = .ok (shown, s'))
    (h : fillPieces (pieces length steps cs) s' = .ok tail) :
    fillPieces (pieces length (steps + 1) ('%' :: form :: cs)) s = .ok (shown ++ tail) := by
  obtain ⟨position, hpieces⟩ := @pieces_slot cs length steps form hform
  simp only [hpieces, fillPieces, hfill, h, bind, Except.bind, pure, Except.pure]

theorem fillPieces_fixed {fixed tail : List Char} {s : Supply} (hfixed : '%' ∉ fixed)
    (h : fillPieces (pieces length steps cs) s = .ok tail) :
    fillPieces (pieces length (fixed.length + steps) (fixed ++ cs)) s = .ok (fixed ++ tail) := by
  induction fixed with
  | nil => simpa using h
  | cons c rest ih =>
    have hc : c ≠ '%' := fun hc => hfixed (hc ▸ .head _)
    have hrest : '%' ∉ rest := fun hmem => hfixed (.tail _ hmem)
    have hsteps : (c :: rest).length + steps = rest.length + steps + 1 := by
      simp
      omega
    rw [hsteps, List.cons_append, pieces_char hc, fillPieces, ih hrest]
    rfl

/-- The steps may be more than the template has characters. -/
theorem fillPieces_parts {parts : List Part} (h : ∀ part ∈ parts, part.Plain) (extra : Nat) :
    fillPieces
      (pieces length ((parts.flatMap Part.written).length + extra) (parts.flatMap Part.written))
      ⟨parts.flatMap Part.arguments, none⟩ = .ok (parts.flatMap Part.shown) := by
  induction parts generalizing extra with
  | nil => cases extra <;> simp [pieces, fillPieces]
  | cons part parts ih =>
    have hpart := h part (.head _)
    have hrest := ih fun p hp => h p (.tail _ hp)
    -- a directive of two characters is read in one step
    have hsteps (form : Char) : ('%' :: form :: parts.flatMap Part.written).length + extra =
        (parts.flatMap Part.written).length + (extra + 1) + 1 := by
      simp
      omega
    rw [List.flatMap_cons, List.flatMap_cons, List.flatMap_cons]
    cases part with
    | fixed text =>
      rw [Part.written, List.length_append, Nat.add_assoc]
      exact fillPieces_fixed hpart (hrest extra)
    | filled text =>
      simp only [Part.written, Part.shown, Part.arguments, List.cons_append, List.nil_append, hsteps]
      exact fillPieces_slot (.inl rfl) (fill_slot text _) (hrest (extra + 1))
    | number n =>
      simp only [Part.written, Part.shown, Part.arguments, List.cons_append, List.nil_append, hsteps]
      exact fillPieces_slot (.inr rfl) (fill_number hpart _) (hrest (extra + 1))

/-- Filling a template with texts and numbers puts them in the places of its directives. -/
theorem fill_parts {parts : List Part} (h : ∀ part ∈ parts, part.Plain) :
    fill (String.ofList (parts.flatMap Part.written)) (parts.flatMap Part.arguments) =
      .ok (String.ofList (parts.flatMap Part.shown)) := by
  have hfill := @fillPieces_parts (parts.flatMap Part.written).length _ h 0
  simp only [fill, fillWith, String.toList_ofList, Nat.add_zero] at hfill ⊢
  rw [hfill]
  rfl

end MessageBus.Template
