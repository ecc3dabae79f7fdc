import MessageBus.Proofs.Address.Framing
import MessageBus.Proofs.Listener.Binding
/-!
Where a listener is bound, and what its address says of that. The address is read as naming that place
and nothing else, so that whoever is told of it connects to the listener.
-/
namespace MessageBus

namespace Address

/-- The address that names a place. -/
def Place.named : Place → Address
  | .path p => ⟨.unix, [("path", p)]⟩
  | .directory d => ⟨.unix, [("tmpdir", d)]⟩
  | .port host n => ⟨.tcp, [("host", host), ("port", toString n)]⟩

/-- A place that an address can name: its port, if it has one, is no larger than ports are. -/
def Place.Nameable : Place → Prop
  | .port _ n => n ≤ maxPort
  | _ => True

/-- The address is read as the place, and as no other option. -/
def Names (address : String) (place : Place) : Prop :=
  (∀ target, parseInto target address = .ok (some place.named, target)) ∧ place.named.place = .ok place

end Address

namespace Listener
open Address

/-- Where a listener is that an address was bound to, in the world in which it was bound: at the socket
path of the address, or at the port that is reported for its host. -/
inductive BoundTo (a : Address) (w : World) : Listener → Address.Place → Prop
  | unix (hunix : a.transport = .unix) :
      BoundTo a w (.atPath (socketPath a (w.attempt a)).1) (.path (socketPath a (w.attempt a)).1)
  | tcp (htcp : a.transport = .tcp) {asked : Nat} (hasked : askedPort a = .ok asked) :
      BoundTo a w
        (.atPort ((a.given? "host").getD fallbackHost) ((w.attempt a).nextListening.2.port asked).1)
        (.port ((a.given? "host").getD fallbackHost) ((w.attempt a).nextListening.2.port asked).1)

variable {a : Address} {l : Listener} {w w' : World} {place : Address.Place} {key path host name : String}
  {asked port : Nat}

theorem bindPath_ok (hb : bindPath path w = (.ok l, w')) : l = .atPath path := by
  obtain ⟨r, w₁, hpath, -, ⟨⟨e, rfl⟩, -⟩ | ⟨rfl, -⟩ | ⟨rfl, -⟩ | ⟨rfl, -⟩⟩ := bindPath_cases path w <;>
    cases hpath.symm.trans hb
  all_goals rfl

theorem bindPort_ok (hb : bindPort host asked w = (.ok l, w')) :
    l = .atPort host (w.nextListening.2.port asked).1 := by
  unfold bindPort at hb
  split at hb
  · cases hb
  · cases hnext : w.nextListening with
    | mk outcome w₁ =>
      rw [hnext] at hb
      cases outcome <;> cases hb
      rfl

theorem boundTo_of_bind (hb : bind a w = (.ok l, w')) : ∃ place, BoundTo a w l place := by
  cases htransport : a.transport with
  | unix =>
    simp only [bind, htransport] at hb
    obtain rfl := bindPath_ok hb
    exact ⟨_, .unix htransport⟩
  | tcp =>
    simp only [bind, htransport] at hb
    cases hasked : askedPort a with
    | error fault => simp [hasked] at hb
    | ok asked =>
      simp only [hasked] at hb
      obtain rfl := bindPort_ok hb
      exact ⟨_, .tcp htransport hasked⟩

/-! ### Places that are named -/

theorem given?_ne_empty {value : String} (h : a.given? key = some value) : value ≠ "" := by
  simpa using (Option.filter_eq_some_iff.1 h).2

theorem join_ne_empty (directory : String) (h : name ≠ "") : Path.join directory name ≠ "" := by
  unfold Path.join
  split <;> simp [h]

theorem socketPath_ne_empty (a : Address) (w : World) : (socketPath a w).1 ≠ "" := by
  unfold socketPath
  split
  · rename_i path hpath
    exact given?_ne_empty hpath
  · exact join_ne_empty _ (by simp)

theorem host_ne_empty (a : Address) : (a.given? "host").getD fallbackHost ≠ "" := by
  cases hhost : a.given? "host" with
  | none => decide
  | some host => exact given?_ne_empty hhost

theorem names_atPath (h : path ≠ "") : Names (atPath path).address (.path path) := by
  have hgiven : (Address.Place.path path).named.given? "path" = some path := by
    simp [Address.Place.named, given?, get?, h]
  have hkeys : ∀ o ∈ (Address.Place.path path).named.options, IsKey o.1 := by
    simp [Address.Place.named, IsKey]
  have hcheck : (Address.Place.path path).named.check = .ok () := by
    simp [check, Address.Place.named, given?, get?, h]
  refine ⟨parseInto_format hkeys hcheck, ?_⟩
  rw [Address.place, hgiven]
  rfl

theorem toList_toString (n : Nat) : (toString n).toList = Nat.toDigits 10 n := by
  rw [Nat.toString_eq_ofList_toDigits, String.toList_ofList]

theorem isAsciiPort_toString (h : port ≤ maxPort) : IsAsciiPort (toString port) where
  filled := by simp
  digits := by
    rw [toList_toString]
    exact fun c => Number.isAsciiDigit_of_mem_toDigits
  short := by
    have hlength : (Nat.toDigits 10 port).length ≤ 5 :=
      (Nat.length_toDigits_le_iff (by decide) (by decide)).2 (Nat.lt_of_le_of_lt h (by decide))
    rw [toList_toString]
    exact Nat.le_trans hlength (by decide)
  small := by rwa [toList_toString, Number.ofDigits_toDigits]

theorem names_atPort (hport : port ≤ maxPort) (hhost : host ≠ "") :
    Names (atPort host port).address (.port host port) := by
  have hdecimal := isAsciiPort_toString hport
  have hread := Number.readInteger_digits hdecimal.filled hdecimal.digits hdecimal.short
  rw [toList_toString, Number.ofDigits_toDigits] at hread
  have hgivenHost : (Address.Place.port host port).named.given? "host" = some host := by
    simp [Address.Place.named, given?, get?, hhost]
  have hgivenPort : (Address.Place.port host port).named.given? "port" = some (toString port) := by
    have hget : (Address.Place.port host port).named.get? "port" = some (toString port) := rfl
    simp [given?, hget]
  have hkeys : ∀ o ∈ (Address.Place.port host port).named.options, IsKey o.1 := by
    simp [Address.Place.named, IsKey]
  have hsuits : (Address.Place.port host port).named.Suits := by
    intro text htext
    cases htext
    exact hdecimal
  refine ⟨parseInto_format hkeys (check_of_suits hsuits), ?_⟩
  rw [Address.place, hgivenHost, hgivenPort, Option.getD_some, hread]
  rfl

/-- The address of a listener names the place where it is bound. -/
theorem BoundTo.names (h : BoundTo a w l place) (hnameable : place.Nameable) : Names l.address place := by
  cases h with
  | unix hunix => exact names_atPath (socketPath_ne_empty _ _)
  | tcp htcp hasked => exact names_atPort hnameable (host_ne_empty a)

/-- It is announced by one line, whatever the place. -/
theorem BoundTo.framed (h : BoundTo a w l place) : Announcement.Framed l.address := by
  apply Announcement.framed_of_printable
  cases h with
  | unix =>
    apply printable_format
    simp [Text.PrintableAscii]
  | tcp =>
    apply printable_format
    simp [Text.PrintableAscii]

end Listener
end MessageBus
