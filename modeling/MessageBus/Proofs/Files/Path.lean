import MessageBus.Files
import MessageBus.Proofs.Number.Digits
/-!
Paths as texts. A name is joined to a directory's path as one more part of it, however the directory's path
is written. The normal form of a path is the same path, and stays as it is.
-/
namespace MessageBus

theorem Text.split_append_mark (mark : Char) (cs rest : List Char) :
    split mark (cs ++ mark :: rest) = split mark cs ++ split mark rest := by
  induction cs with
  | nil => simp [split]
  | cons c cs ih =>
    by_cases hc : c = mark
    · simp [split, hc, ih]
    · obtain ⟨piece, pieces, hpieces⟩ := List.exists_cons_of_ne_nil (split_ne_nil mark cs)
      simp [split, hc, ih, hpieces]

namespace Path
variable {directory name : String}

/-- A name for one part of a path. -/
structure IsPart (name : String) : Prop where
  counts : counts name.toList = true
  slashless : '/' ∉ name.toList

theorem eq_append_of_endsWithSlash (h : endsWithSlash directory = true) :
    ∃ front, directory.toList = front ++ ['/'] := by
  have hlast : directory.toList.getLast? = some '/' := by simpa [endsWithSlash] using h
  exact List.getLast?_eq_some_iff.1 hlast

/-- A slash stands between a directory and a name, the directory's own if it ends with one. -/
theorem toList_join (hne : directory ≠ "") (name : String) :
    ∃ front, (directory.toList = front ∨ directory.toList = front ++ ['/']) ∧
      (join directory name).toList = front ++ '/' :: name.toList := by
  unfold join
  split
  · rename_i hends
    obtain ⟨front, hfront⟩ := eq_append_of_endsWithSlash (by simpa [hne] using hends)
    exact ⟨front, .inr hfront, by simp [hfront]⟩
  · exact ⟨directory.toList, .inl rfl, by simp⟩

/-- The path of a name in a directory has the parts of the directory and one more, the name. -/
theorem ofText_join (hne : directory ≠ "") (hname : IsPart name) :
    ofText (join directory name) =
      { ofText directory with parts := (ofText directory).parts ++ [name] } := by
  obtain ⟨front, hdirectory, hjoin⟩ := toList_join hne name
  have hempty : counts [] = false := by decide
  have hparts : (ofText directory).parts = ((Text.split '/' front).filter counts).map String.ofList := by
    obtain hfront | hfront := hdirectory
    · rw [ofText, hfront]
    · rw [ofText, hfront, Text.split_append_mark]
      simp [Text.split, hempty]
  have habsolute : (join directory name).toList.head? = directory.toList.head? := by
    have hfilled : directory.toList ≠ [] := by simpa using hne
    obtain hfront | hfront := hdirectory
    · obtain ⟨c, cs, hcs⟩ := List.exists_cons_of_ne_nil (hfront ▸ hfilled)
      rw [hjoin, hfront, hcs]
      rfl
    · rw [hjoin, hfront]
      cases front <;> rfl
  have hsplit : ofText (join directory name) =
      ⟨(join directory name).toList.head? == some '/',
        ((Text.split '/' (front ++ '/' :: name.toList)).filter counts).map String.ofList⟩ := by
    rw [ofText, hjoin]
  rw [hsplit, habsolute, hparts, Text.split_append_mark, Text.split_of_notMem hname.slashless]
  simp [hname.counts, ofText]

/-! ### Normal form -/

/-- The slashes in front of the parts of a path in normal form. -/
def leading : List Char → List Char
  | '/' :: '/' :: '/' :: _ => ['/']
  | '/' :: '/' :: _ => ['/', '/']
  | '/' :: _ => ['/']
  | _ => []

/-- The parts of a path with a slash between each two. -/
def body (parts : List String) : List Char := Text.join '/' (parts.map String.toList)

variable {text : String} {parts : List String} {cs rest : List Char}

theorem intercalate_eq_join (pieces : List (List Char)) : ['/'].intercalate pieces = Text.join '/' pieces := by
  induction pieces with
  | nil => rfl
  | cons piece pieces ih =>
    cases pieces with
    | nil => simp [Text.join]
    | cons next pieces =>
      rw [List.intercalate_cons_cons, ih, List.append_assoc]
      rfl

theorem leading_cases (cs : List Char) :
    (leading cs = [] ∧ cs.head? ≠ some '/') ∨
      ((leading cs = ['/'] ∨ leading cs = ['/', '/']) ∧ cs.head? = some '/') := by
  fun_cases leading cs with
  | case4 _ _ _ hother =>
    refine .inl ⟨rfl, fun hslash => ?_⟩
    obtain ⟨rest, rfl⟩ := List.head?_eq_some_iff.1 hslash
    exact hother rest rfl
  | _ => simp

/-- The slashes in front stay the same in front of anything that begins with none. -/
theorem leading_append (h : rest.head? ≠ some '/') : leading (leading cs ++ rest) = leading cs := by
  cases rest with
  | nil => obtain ⟨hcs, -⟩ | ⟨hcs | hcs, -⟩ := leading_cases cs <;> rw [hcs] <;> rfl
  | cons c rest =>
    have hc : c ≠ '/' := by simpa using h
    obtain ⟨hcs, -⟩ | ⟨hcs | hcs, -⟩ := leading_cases cs <;> rw [hcs] <;> simp [leading, hc]

theorem normal_eq (text : String) :
    normal text =
      if String.ofList (leading text.toList) ++ String.intercalate "/" (ofText text).parts = "" then "."
      else String.ofList (leading text.toList) ++ String.intercalate "/" (ofText text).parts := by
  unfold normal
  generalize text.toList = cs
  fun_cases leading cs <;> simp_all

theorem toList_normal (text : String) :
    (normal text).toList =
      if leading text.toList ++ body (ofText text).parts = [] then ['.']
      else leading text.toList ++ body (ofText text).parts := by
  have hwhole : (String.ofList (leading text.toList) ++ String.intercalate "/" (ofText text).parts).toList =
      leading text.toList ++ body (ofText text).parts := by
    rw [String.toList_append, String.toList_ofList, String.toList_intercalate]
    exact congrArg _ (intercalate_eq_join _)
  rw [normal_eq, ← hwhole]
  simp only [String.toList_eq_nil_iff]
  split <;> rfl

theorem isPart_of_mem (h : name ∈ (ofText text).parts) : IsPart name := by
  simp only [ofText, List.mem_map, List.mem_filter] at h
  obtain ⟨piece, ⟨hmem, hcounts⟩, rfl⟩ := h
  exact ⟨by simpa using hcounts, by simpa using Text.notMem_of_mem_split hmem⟩

theorem head?_body (h : ∀ part ∈ parts, IsPart part) : (body parts).head? ≠ some '/' := by
  cases parts with
  | nil => simp [body, Text.join]
  | cons part parts =>
    have hpart := h part (.head _)
    obtain ⟨c, cs, hcs⟩ : ∃ c cs, part.toList = c :: cs := by
      apply List.exists_cons_of_ne_nil
      intro hnil
      simpa [hnil, counts] using hpart.counts
    have hc : c ≠ '/' := fun hc => hpart.slashless (by simp [hcs, hc])
    cases parts <;> simp [body, Text.join, hcs, hc]

theorem filter_split_body (h : ∀ part ∈ parts, IsPart part) :
    (Text.split '/' (body parts)).filter counts = parts.map String.toList := by
  have hpieces : ∀ piece ∈ parts.map String.toList, counts piece = true ∧ '/' ∉ piece := by
    intro piece hpiece
    obtain ⟨part, hpart, rfl⟩ := List.mem_map.1 hpiece
    exact ⟨(h part hpart).counts, (h part hpart).slashless⟩
  by_cases hnil : parts = []
  · subst hnil
    rfl
  · rw [body, Text.split_join (by simpa using hnil) fun piece hpiece => (hpieces piece hpiece).2,
      List.filter_eq_self]
    exact fun piece hpiece => (hpieces piece hpiece).1

/-- Slashes in front of a path are no parts of it. -/
theorem filter_split_leading (cs rest : List Char) :
    (Text.split '/' (leading cs ++ rest)).filter counts = (Text.split '/' rest).filter counts := by
  have hempty : counts [] = false := by decide
  obtain ⟨hcs, -⟩ | ⟨hcs | hcs, -⟩ := leading_cases cs <;> rw [hcs] <;> simp [Text.split, hempty]

/-- A path in normal form has the same parts. -/
theorem parts_normal (text : String) : (ofText (normal text)).parts = (ofText text).parts := by
  have hall : ∀ part ∈ (ofText text).parts, IsPart part := fun _ => isPart_of_mem
  have hbody := filter_split_body hall
  have hkept : ((ofText text).parts.map String.toList).map String.ofList = (ofText text).parts := by simp
  have hsplit : (ofText (normal text)).parts =
      ((Text.split '/' (normal text).toList).filter counts).map String.ofList := rfl
  rw [hsplit, toList_normal]
  split
  · rename_i hnil
    have hpoint : (Text.split '/' ['.']).filter counts = (Text.split '/' []).filter counts := by decide
    rw [(List.append_eq_nil_iff.1 hnil).2] at hbody
    rw [hpoint, hbody, hkept]
  · rw [filter_split_leading, hbody, hkept]

theorem leading_normal (text : String) : leading (normal text).toList = leading text.toList := by
  rw [toList_normal]
  split
  · rename_i hnil
    rw [(List.append_eq_nil_iff.1 hnil).1]
    rfl
  · exact leading_append (head?_body fun _ => isPart_of_mem)

theorem absolute_iff (text : String) : (ofText text).absolute = true ↔ leading text.toList ≠ [] := by
  have habsolute : (ofText text).absolute = true ↔ text.toList.head? = some '/' := by simp [ofText]
  rw [habsolute]
  obtain ⟨hcs, hhead⟩ | ⟨hcs | hcs, hhead⟩ := leading_cases text.toList <;> simp [hcs, hhead]

/-- A path in normal form is the same path. -/
theorem ofText_normal (text : String) : ofText (normal text) = ofText text := by
  have habsolute : (ofText (normal text)).absolute = (ofText text).absolute := by
    rw [Bool.eq_iff_iff, absolute_iff, absolute_iff, leading_normal]
  have hparts := parts_normal text
  generalize ofText (normal text) = p at habsolute hparts ⊢
  obtain ⟨absolute, parts⟩ := p
  obtain rfl : absolute = (ofText text).absolute := habsolute
  obtain rfl : parts = (ofText text).parts := hparts
  rfl

/-- A path in normal form stays as it is. -/
theorem normal_normal (text : String) : normal (normal text) = normal text := by
  rw [normal_eq (normal text), leading_normal, ofText_normal, ← normal_eq]

/-- The normal form forgets nothing but how the parts are kept apart. -/
theorem normal_eq_iff {other : String} :
    normal text = normal other ↔
      leading text.toList = leading other.toList ∧ (ofText text).parts = (ofText other).parts := by
  constructor
  · intro h
    rw [← leading_normal text, ← leading_normal other, ← parts_normal text, ← parts_normal other, h]
    exact ⟨rfl, rfl⟩
  · rintro ⟨hleading, hparts⟩
    rw [normal_eq, normal_eq, hleading, hparts]

end Path
end MessageBus
