import MessageBus.Proofs.Address.Port
import MessageBus.Proofs.Result
/-!
The grammar of listen addresses. Main statement: a text is accepted if and only if a transport stands in
front of its first colon, every entry behind it that is not empty writes an option, and the options are
what the transport asks for; the address has the options that the entries write, in order.
-/
namespace MessageBus

theorem mapM_ok_iff {ε α β : Type} {f : α → Except ε β} {xs : List α} {ys : List β} :
    xs.mapM f = .ok ys ↔ List.Forall₂ (fun x y => f x = .ok y) xs ys := by
  induction xs generalizing ys with
  | nil => cases ys <;> simp [pure, Except.pure]
  | cons x xs ih =>
    rw [List.mapM_cons, bind_ok, List.forall₂_cons_left_iff]
    simp only [bind_ok, ih, pure, Except.pure, Except.ok.injEq, eq_comm (a := ys), exists_and_left]

namespace Address
variable {a : Address} {text key value : String} {cs entry : List Char}
  {options : List (String × String)} {o : String × String} {target after : Report.Target}

/-- The entry writes the option: a key, the first equals sign, and the value in percent escapes. -/
def Writes (entry : List Char) (o : String × String) : Prop :=
  ∃ value, entry = o.1.toList ++ '=' :: value ∧ o.1 ≠ "" ∧ '=' ∉ o.1.toList ∧
    o.2 = String.ofList (Text.Percent.unescape value)

/-- The text names the transport in front of its first colon. Behind it are entries with a comma between
each two, and those that are not empty write the options, in order. -/
def Lists (text : String) (a : Address) : Prop :=
  ∃ entries : List (List Char), entries ≠ [] ∧ (∀ entry ∈ entries, ',' ∉ entry) ∧
    text.toList = a.transport.name.toList ++ ':' :: Text.join ',' entries ∧
    List.Forall₂ Writes (entries.filter (· ≠ [])) a.options

/-- The first option with the key has the value. -/
def First (options : List (String × String)) (key value : String) : Prop :=
  ∃ before after, options = before ++ (key, value) :: after ∧ ∀ o ∈ before, o.1 ≠ key

/-- The first option with the key is not empty. -/
def Fills (options : List (String × String)) (key : String) : Prop :=
  ∃ value, First options key value ∧ value ≠ ""

/-- The options are what the transport asks for: exactly one of a path and a directory, or a port if any
port at all. -/
def Asked (a : Address) : Prop :=
  match a.transport with
  | .unix => ¬ (Fills a.options "path" ↔ Fills a.options "tmpdir")
  | .tcp => ∀ port, First a.options "port" port → IsPort port

/-- The text writes the address, which is what its transport asks for. -/
structure Written (text : String) (a : Address) : Prop where
  lists : Lists text a
  asked : Asked a

/-! ### Entries -/

theorem readOption_ok_iff : readOption entry = .ok o ↔ Writes entry o := by
  unfold readOption
  constructor
  · intro h
    split at h
    · rename_i c key value hcut
      obtain ⟨rfl, hequals⟩ := Text.eq_append_of_cut hcut
      cases h
      exact ⟨value, by simp, by simp, by simpa using hequals, rfl⟩
    · cases h
  · rintro ⟨value, rfl, hne, hequals, hvalue⟩
    have hfilled : o.1.toList ≠ [] := by simpa using hne
    have hcut := Text.cut_append value hequals
    obtain ⟨c, key, hkey⟩ := List.exists_cons_of_ne_nil hfilled
    rw [hcut, hkey]
    simp [← hkey, ← hvalue]

theorem readOptions_ok_iff :
    readOptions cs = .ok options ↔
      ∃ entries, entries ≠ [] ∧ (∀ entry ∈ entries, ',' ∉ entry) ∧ cs = Text.join ',' entries ∧
        List.Forall₂ Writes (entries.filter (· ≠ [])) options := by
  simp only [readOptions, mapM_ok_iff, readOption_ok_iff]
  constructor
  · intro h
    obtain ⟨hne, hfree, hjoin⟩ := Text.split_eq_iff.1 (Eq.refl (Text.split ',' cs))
    exact ⟨_, hne, hfree, hjoin, h⟩
  · rintro ⟨entries, hne, hfree, hjoin, h⟩
    rwa [Text.split_eq_iff.2 ⟨hne, hfree, hjoin⟩]

theorem colon_notMem_name (t : Transport) : ':' ∉ t.name.toList := by
  cases t <;> decide

theorem name_ne_nil (t : Transport) : t.name.toList ≠ [] := by
  cases t <;> decide

theorem ofName?_eq_some_iff {name : List Char} {t : Transport} :
    Transport.ofName? name = some t ↔ name = t.name.toList := by
  unfold Transport.ofName?
  cases t <;> split <;> simp_all [Transport.name]

theorem lists_iff :
    Lists text a ↔ ∃ rest, Text.cut ':' text.toList = some (a.transport.name.toList, rest) ∧
      readOptions rest = .ok a.options := by
  simp only [readOptions_ok_iff]
  constructor
  · rintro ⟨entries, hne, hfree, htext, hwrites⟩
    exact ⟨_, htext ▸ Text.cut_append _ (colon_notMem_name a.transport), entries, hne, hfree, rfl, hwrites⟩
  · rintro ⟨rest, hcut, entries, hne, hfree, rfl, hwrites⟩
    exact ⟨entries, hne, hfree, (Text.eq_append_of_cut hcut).1, hwrites⟩

/-- A text that lists an address is read as that address, if it is what its transport asks for. -/
theorem parse_of_lists (h : Lists text a) : parse text = a.check.map fun _ => a := by
  obtain ⟨rest, hcut, hoptions⟩ := lists_iff.1 h
  obtain ⟨c, name, hname⟩ := List.exists_cons_of_ne_nil (name_ne_nil a.transport)
  have htransport := ofName?_eq_some_iff.2 (Eq.refl a.transport.name.toList)
  rw [hname] at hcut htransport
  rw [parse, hcut]
  dsimp only
  rw [htransport]
  cases hcheck : a.check <;> simp [hoptions, hcheck, bind, Except.bind, pure, Except.pure, Except.map]

theorem lists_of_parse (h : parse text = .ok a) : Lists text a := by
  unfold parse at h
  split at h
  · cases h
  · cases h
  · rename_i name rest _ hcut
    split at h
    · cases h
    · rename_i transport htransport
      obtain ⟨options, hoptions, h⟩ := bind_ok.1 h
      obtain ⟨_, -, h⟩ := bind_ok.1 h
      cases h
      exact lists_iff.2 ⟨rest, by rw [hcut, ofName?_eq_some_iff.1 htransport], hoptions⟩

theorem parse_ok_iff : parse text = .ok a ↔ Lists text a ∧ a.check = .ok () := by
  constructor
  · intro h
    have hlists := lists_of_parse h
    rw [parse_of_lists hlists, map_ok] at h
    obtain ⟨_, hcheck, -⟩ := h
    exact ⟨hlists, hcheck⟩
  · rintro ⟨hlists, hcheck⟩
    rw [parse_of_lists hlists, hcheck]
    rfl

/-! ### What a transport asks for -/

theorem get?_eq_some_iff : a.get? key = some value ↔ First a.options key value := by
  simp [get?, First, List.lookup_eq_some_iff, eq_comm (a := key)]

theorem isSome_given?_iff : (a.given? key).isSome = true ↔ Fills a.options key := by
  simp only [Fills, ← get?_eq_some_iff, given?]
  cases a.get? key <;> simp

theorem check_ok_iff : a.check = .ok () ↔ Asked a := by
  unfold check Asked
  cases a.transport with
  | unix =>
    rw [← isSome_given?_iff, ← isSome_given?_iff]
    cases (a.given? "path").isSome <;> cases (a.given? "tmpdir").isSome <;> simp
  | tcp =>
    have hread : ((readPort ((a.get? "port").getD "0")).map fun _ => ()) = .ok () ↔
        IsPort ((a.get? "port").getD "0") := by
      simp [map_ok, ← readPort_ok_iff]
    simp only [hread, ← get?_eq_some_iff]
    cases hport : a.get? "port" with
    | none => simpa using readPort_ok_iff.1 ⟨0, rfl⟩
    | some port => simp

/-- A text is accepted if and only if it writes an address, and then as that one, the target as it was. -/
theorem parseInto_some_iff :
    parseInto target text = .ok (some a, after) ↔ Written text a ∧ after = target := by
  have hwritten : Written text a ↔ parse text = .ok a := by
    rw [parse_ok_iff, check_ok_iff]
    exact ⟨fun h => ⟨h.lists, h.asked⟩, fun h => ⟨h.1, h.2⟩⟩
  rw [hwritten]
  unfold parseInto
  cases hparse : parse text with
  | ok b => simp [eq_comm]
  | error fault =>
    dsimp only
    split
    · simp
    · split <;> simp

/-- A key may be given again, even with a value that is no port. -/
example : parseInto .clear "tcp:port=٣,,port=x%2C" =
    .ok (some ⟨.tcp, [("port", "٣"), ("port", "x,")]⟩, .clear) := rfl

end Address
end MessageBus
