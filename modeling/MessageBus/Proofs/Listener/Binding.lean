import MessageBus.Listener
import MessageBus.Proofs.Files.Socket
/-!
Binding an address. However it ends, the address was tried; at most one socket is new in the tree, and one that
was left at the path may be gone.
-/
namespace MessageBus

/-- What stands in the file tree for a socket. -/
def Sockets.node : Sockets → FileNode
  | .native _ => .socket
  | .standIn => .file []

theorem Sockets.node_ne_directory (sockets : Sockets) : sockets.node ≠ .directory := by
  cases sockets <;> simp [node]

theorem hasNull_of_isAbstract {path : String} (h : Path.isAbstract path = true) :
    Path.hasNull path = true := by
  unfold Path.isAbstract at h
  unfold Path.hasNull
  cases hcs : path.toList with
  | nil => simp [hcs] at h
  | cons c cs => simp_all

theorem isAbstract_of_plain {path : String} (h : Path.hasNull path = false) :
    Path.isAbstract path = false := by
  cases habstract : Path.isAbstract path with
  | false => rfl
  | true => exact (hasNull_of_isAbstract habstract).symm.trans h

namespace Listener
variable {w w' : World} {a : Address} {r : Except Failure Listener} {path : String} {l : Listener}

@[simp] theorem nextListening_files (w : World) : w.nextListening.2.files = w.files := by
  unfold World.nextListening
  split <;> rfl

@[simp] theorem nextListening_attempts (w : World) : w.nextListening.2.attempts = w.attempts := by
  unfold World.nextListening
  split <;> rfl

@[simp] theorem nextListening_platform (w : World) : w.nextListening.2.platform = w.platform := by
  unfold World.nextListening
  split <;> rfl

/-- The listen attempt that comes next succeeds as far as the system is asked. -/
def Admitted (w : World) : Prop := w.nextListening.1 = none

theorem admitted_congr (h : w'.listening = w.listening) : Admitted w' ↔ Admitted w := by
  unfold Admitted World.nextListening
  rw [h]
  cases w.listening <;> simp

/-- Binding the path breaks off over a null character in it: the system's own sockets let one stand in front
of an abstract name only; a stand-in comes upon it once the attempt to listen succeeded. -/
def Nulled (path : String) (w : World) : Prop :=
  Path.hasNull path = true ∧
    match w.platform.sockets with
    | .native _ => Path.isAbstract path = false
    | .standIn => Admitted w

@[simp] theorem port_files (w : World) (asked : Nat) : (w.port asked).2.files = w.files := by
  unfold World.port
  split <;> rfl

@[simp] theorem port_attempts (w : World) (asked : Nat) :
    (w.port asked).2.attempts = w.attempts := by
  unfold World.port
  split <;> rfl

/-! ### Ports -/

theorem bindPort_cases (host : String) (asked : Nat) (w : World) :
    ∃ r w', bindPort host asked w = (r, w') ∧ w'.attempts = w.attempts ∧ w'.files = w.files ∧
      ((∃ words, hostFault? host w.platform.sockets = some words ∧ r = .error (.host words)) ∨
        (∃ e, r = .error (.system e)) ∨ ∃ l, r = .ok l ∧ l.socket = none) := by
  have hfiles := nextListening_files w
  have hattempts := nextListening_attempts w
  unfold bindPort
  cases hhost : hostFault? host w.platform.sockets with
  | some words => exact ⟨_, _, rfl, rfl, rfl, .inl ⟨words, rfl, rfl⟩⟩
  | none =>
    cases hn : w.nextListening with
    | mk outcome w₁ =>
      rw [hn] at hfiles hattempts
      cases outcome with
      | some e => exact ⟨_, _, rfl, hattempts, hfiles, .inr (.inl ⟨e, rfl⟩)⟩
      | none =>
        exact ⟨_, _, rfl, (port_attempts w₁ asked).trans hattempts, (port_files w₁ asked).trans hfiles,
          .inr (.inr ⟨_, rfl, rfl⟩)⟩

/-! ### Paths -/

/-- Where sweeping breaks off, and what it does otherwise. -/
theorem sweep_cases (path : String) (w : World) :
    (sweep path w = .error .nullCharacter ∧ Nulled path w) ∨
      ∃ files log, sweep path w = .ok { w with files := files, log := log } ∧ w.files.Swept path files ∧
        (w.platform.sockets = .standIn ∨ Path.isAbstract path = true → files = w.files) ∧
        (Nulled path w → w.platform.sockets = .standIn) := by
  unfold sweep Nulled
  cases hsockets : w.platform.sockets with
  | standIn => exact .inr ⟨w.files, w.log, rfl, .inl rfl, fun _ => rfl, fun _ => rfl⟩
  | native foreign =>
    dsimp only
    split
    · rename_i habstract
      exact .inr ⟨w.files, w.log, rfl, .inl rfl, fun _ => rfl, by simp [habstract]⟩
    · rename_i habstract
      split
      · rename_i hnull
        exact .inl ⟨rfl, hnull, by simpa using habstract⟩
      · rename_i hnull
        obtain ⟨files, hswept, hfiles⟩ | ⟨e, -, hfails⟩ := w.files.sweep_cases path
        · exact .inr ⟨files, w.log, by rw [hswept], hfiles, by simp [habstract], by simp [hnull]⟩
        · rw [hfails]
          dsimp only
          split
          · exact .inr ⟨w.files, _, rfl, .inl rfl, fun _ => rfl, by simp [hnull]⟩
          · exact .inr ⟨w.files, w.log, rfl, .inl rfl, fun _ => rfl, by simp [hnull]⟩

/-- What making a socket comes to: it has an abstract name, it stands where its path leads, the system has an
error, or a stand-in comes upon a null character. -/
theorem makeSocket_cases (path : String) (w : World) :
    (∃ e, makeSocket path w = .error (.system e)) ∨
    (makeSocket path w = .error .nullCharacter ∧ w.platform.sockets = .standIn ∧
      Path.hasNull path = true) ∨
    (makeSocket path w = .ok w ∧ Path.isAbstract path = true ∧ w.platform.sockets ≠ .standIn) ∨
    ∃ p, makeSocket path w = .ok { w with files := w.files.put p w.platform.sockets.node } ∧
      Path.isAbstract path = false ∧ w.files.Leads path p ∧ w.files.find? p ≠ some .directory ∧
      (w.platform.sockets = .standIn → Path.hasNull path = false) := by
  unfold makeSocket
  cases hsockets : w.platform.sockets with
  | standIn =>
    by_cases hnull : Path.hasNull path = true
    · exact .inr (.inl ⟨by simp [hnull, Except.map], rfl, hnull⟩)
    · have hplain : Path.hasNull path = false := by simpa using hnull
      simp only [hplain, Bool.false_eq_true, if_false]
      cases hwrite : w.files.write path [] with
      | error e => exact .inl ⟨e, rfl⟩
      | ok files =>
        obtain ⟨p, hleads, hp, -, rfl⟩ := Files.write_ok hwrite
        exact .inr (.inr (.inr ⟨p, rfl, isAbstract_of_plain hplain, hleads, hp, fun _ => trivial⟩))
  | native foreign =>
    by_cases habstract : Path.isAbstract path = true
    · simp only [habstract, if_true]
      split
      · exact .inl ⟨_, rfl⟩
      · exact .inr (.inr (.inl ⟨rfl, trivial, by simp⟩))
    · have hgrounded : Path.isAbstract path = false := by simpa using habstract
      simp only [hgrounded, Bool.false_eq_true, if_false]
      cases hmake : w.files.makeSocket path with
      | error e => exact .inl ⟨e, rfl⟩
      | ok files =>
        obtain ⟨p, hleads, hp, rfl⟩ := Files.makeSocket_ok hmake
        exact .inr (.inr (.inr ⟨p, rfl, trivial, hleads, by simp [hp], by simp⟩))

/-- How binding a path ends: the system has an error, there is a null character in the path, its name is
abstract, or a socket stands there. -/
theorem bindPath_cases (path : String) (w : World) :
    ∃ r w', bindPath path w = (r, w') ∧ w'.attempts = w.attempts ∧
      (((∃ e, r = .error (.system e)) ∧ w.files.Swept path w'.files) ∨
        (r = .error .nullCharacter ∧ w'.files = w.files ∧ Nulled path w) ∨
        (r = .ok (.atPath path) ∧ w'.files = w.files ∧ Path.isAbstract path = true ∧
          w.platform.sockets ≠ .standIn) ∨
        (r = .ok (.atPath path) ∧ Path.hasNull path = false ∧
          ∃ p, w.files.Leads path p ∧ w.files.find? p ≠ some .directory ∧
            w'.files = w.files.put p w.platform.sockets.node)) := by
  obtain ⟨hsweep, hnulled⟩ | ⟨files, log, hsweep, hswept, hsame, hnative⟩ := sweep_cases path w
  · exact ⟨_, _, by rw [bindPath, hsweep], rfl, .inr (.inl ⟨rfl, rfl, hnulled⟩)⟩
  · have hfiles := nextListening_files { w with files := files, log := log }
    have hattempts := nextListening_attempts { w with files := files, log := log }
    have hplatform := nextListening_platform { w with files := files, log := log }
    have hadmitted : Admitted { w with files := files, log := log } ↔ Admitted w := admitted_congr rfl
    rw [bindPath, hsweep]
    dsimp only
    rcases hnext : World.nextListening { w with files := files, log := log } with ⟨outcome, w₂⟩
    rw [Admitted, hnext] at hadmitted
    rw [hnext] at hfiles hattempts hplatform
    dsimp only at hfiles hattempts hplatform hadmitted ⊢
    cases outcome with
    | some e => exact ⟨_, _, rfl, hattempts, .inl ⟨⟨e, rfl⟩, by rwa [hfiles]⟩⟩
    | none =>
      dsimp only
      have hcases := makeSocket_cases path w₂
      rw [hfiles, hplatform] at hcases
      obtain ⟨e, hmake⟩ | ⟨hmake, hstandIn, hnull⟩ | ⟨hmake, habstract, hreal⟩ |
        ⟨p, hmake, hgrounded, hleads, hp, hplain⟩ := hcases <;> rw [hmake]
      · exact ⟨_, _, rfl, hattempts, .inl ⟨⟨e, rfl⟩, by rwa [hfiles]⟩⟩
      · refine ⟨_, _, rfl, hattempts, .inr (.inl ⟨rfl, by rw [hfiles, hsame (.inl hstandIn)], hnull, ?_⟩)⟩
        rw [hstandIn]
        exact hadmitted.1 rfl
      · exact ⟨_, _, rfl, hattempts,
          .inr (.inr (.inl ⟨rfl, by rw [hfiles, hsame (.inr habstract)], habstract, hreal⟩))⟩
      · obtain ⟨hleads', hp', hput⟩ := hswept.put hleads hp w.platform.sockets.node
        refine ⟨_, _, rfl, hattempts, .inr (.inr (.inr ⟨rfl, ?_, p, hleads', hp', hput⟩))⟩
        cases hsockets : w.platform.sockets with
        | standIn => exact hplain hsockets
        | native foreign =>
          -- the system's sockets looked for a null character while sweeping
          cases hnull : Path.hasNull path with
          | false => rfl
          | true =>
            have hstandIn := hnative ⟨hnull, by rw [hsockets]; exact hgrounded⟩
            simp [hsockets] at hstandIn

theorem bindPath_of_nulled (h : Nulled path w) : (bindPath path w).1 = .error .nullCharacter := by
  obtain ⟨hnull, hwhere⟩ := h
  unfold bindPath sweep
  cases hsockets : w.platform.sockets with
  | native foreign =>
    rw [hsockets] at hwhere
    simp [hwhere, hnull]
  | standIn =>
    rw [hsockets] at hwhere
    have hplatform := nextListening_platform w
    rcases hnext : w.nextListening with ⟨outcome, w₁⟩
    rw [Admitted, hnext] at hwhere
    rw [hnext] at hplatform
    obtain rfl : outcome = none := hwhere
    have hstandIn : w₁.platform.sockets = .standIn := (congrArg (·.sockets) hplatform).trans hsockets
    simp [hnext, makeSocket, hstandIn, hnull, Except.map]

@[simp] theorem socketPath_files (a : Address) (w : World) :
    (socketPath a w).2.files = w.files := by
  unfold socketPath
  split <;> rfl

@[simp] theorem socketPath_attempts (a : Address) (w : World) :
    (socketPath a w).2.attempts = w.attempts := by
  unfold socketPath
  split <;> rfl

@[simp] theorem socketPath_platform (a : Address) (w : World) :
    (socketPath a w).2.platform = w.platform := by
  unfold socketPath
  split <;> rfl

theorem admitted_socketPath : Admitted (socketPath a (w.attempt a)).2 ↔ Admitted w := by
  refine admitted_congr ?_
  unfold socketPath
  split <;> rfl

theorem nulled_socketPath : Nulled path (socketPath a (w.attempt a)).2 ↔ Nulled path w := by
  rw [Nulled, Nulled, socketPath_platform, admitted_socketPath]
  rfl

/-! ### Addresses -/

/-- How binding an address ends. Whatever its end, the address counts as tried; only a socket is new, and only
one that was left at the path is gone. -/
inductive BindEnd (a : Address) (w : World) : Except Failure Listener → Files → Prop
  | refused (e : SystemError) {files : Files}
      (hfiles : w.files.Swept (socketPath a (w.attempt a)).1 files) :
      BindEnd a w (.error (.system e)) files
  | nullPath (hunix : a.transport = .unix) (hnull : Nulled (socketPath a (w.attempt a)).1 w) :
      BindEnd a w (.error .nullCharacter) w.files
  | portUnread (htcp : a.transport = .tcp) (fault : Number.Fault)
      (hasked : askedPort a = .error fault) : BindEnd a w (.error (.number fault)) w.files
  | host (htcp : a.transport = .tcp) (words : String)
      (hhost : hostFault? ((a.given? "host").getD Address.fallbackHost) w.platform.sockets = some words) :
      BindEnd a w (.error (.host words)) w.files
  | port (l : Listener) (hsocket : l.socket = none) : BindEnd a w (.ok l) w.files
  | abstract (l : Listener) (path : String) (hsocket : l.socket = some path)
      (habstract : Path.isAbstract path = true) : BindEnd a w (.ok l) w.files
  | path (l : Listener) (path : String) (p : Place) (hsocket : l.socket = some path)
      (hplain : Path.hasNull path = false) (hleads : w.files.Leads path p)
      (hfree : w.files.find? p ≠ some .directory) :
      BindEnd a w (.ok l) (w.files.put p w.platform.sockets.node)

theorem bind_end (hb : bind a w = (r, w')) :
    w'.attempts = w.attempts ++ [a] ∧ BindEnd a w r w'.files := by
  unfold bind at hb
  dsimp only at hb
  split at hb
  · rename_i hunix
    have hfiles := socketPath_files a (w.attempt a)
    have hattempts := socketPath_attempts a (w.attempt a)
    have hplatform := socketPath_platform a (w.attempt a)
    obtain ⟨r', w₁, hpath, hkept, hcases⟩ :=
      bindPath_cases (socketPath a (w.attempt a)).1 (socketPath a (w.attempt a)).2
    obtain ⟨rfl, rfl⟩ := Prod.ext_iff.1 (hpath.symm.trans hb)
    refine ⟨hkept.trans hattempts, ?_⟩
    rw [hfiles, hplatform, nulled_socketPath] at hcases
    obtain ⟨⟨e, rfl⟩, hswept⟩ | ⟨rfl, hsame, hnulled⟩ | ⟨rfl, hsame, habstract, -⟩ |
      ⟨rfl, hplain, p, hleads, hfree, hput⟩ := hcases
    · exact .refused e hswept
    · exact hsame ▸ .nullPath hunix hnulled
    · exact hsame ▸ .abstract _ _ rfl habstract
    · exact hput ▸ .path _ _ p rfl hplain hleads hfree
  · rename_i htcp
    split at hb
    · rename_i fault hasked
      cases hb
      exact ⟨rfl, .portUnread htcp fault hasked⟩
    · rename_i asked hasked
      obtain ⟨r', w₁, hport, hkept, hsame, hcases⟩ :=
        bindPort_cases ((a.given? "host").getD Address.fallbackHost) asked (w.attempt a)
      obtain ⟨rfl, rfl⟩ := Prod.ext_iff.1 (hport.symm.trans hb)
      refine ⟨hkept, ?_⟩
      obtain ⟨words, hhost, rfl⟩ | ⟨e, rfl⟩ | ⟨l, rfl, hsocket⟩ := hcases
      · exact hsame ▸ .host htcp words hhost
      · exact .refused e (.inl hsame)
      · exact hsame ▸ .port l hsocket

theorem bind_of_nulled (hunix : a.transport = .unix) (hnull : Nulled (socketPath a (w.attempt a)).1 w) :
    ∃ w', bind a w = (.error .nullCharacter, w') := by
  have hpath := bindPath_of_nulled ((nulled_socketPath (a := a)).2 hnull)
  unfold bind
  simp only [hunix]
  exact ⟨_, Prod.ext hpath rfl⟩

theorem bind_of_host {asked : Nat} {words : String} (htcp : a.transport = .tcp)
    (hasked : askedPort a = .ok asked)
    (hhost : hostFault? ((a.given? "host").getD Address.fallbackHost) w.platform.sockets = some words) :
    ∃ w', bind a w = (.error (.host words), w') := by
  unfold bind bindPort
  have hattempt : hostFault? ((a.given? "host").getD Address.fallbackHost) (w.attempt a).platform.sockets =
      some words := hhost
  simp only [htcp, hasked, hattempt]
  exact ⟨_, rfl⟩

theorem bind_error_kept {failure : Failure} (hb : bind a w = (.error failure, w')) :
    w'.attempts = w.attempts ++ [a] ∧
      (w'.files = w.files ∨ ∃ e, failure = .system e ∧
        w.files.Swept (socketPath a (w.attempt a)).1 w'.files) := by
  obtain ⟨hattempts, hend⟩ := bind_end hb
  refine ⟨hattempts, ?_⟩
  generalize w'.files = files at hend ⊢
  cases hend with
  | refused e hswept => exact .inr ⟨e, rfl, hswept⟩
  | nullPath | portUnread | host => exact .inl rfl

end Listener
end MessageBus
