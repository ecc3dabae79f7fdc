import MessageBus.Proofs.Files.Path
import MessageBus.Proofs.Listener.Endpoint
/-!
What was checked of an address is what is bound. An address that was accepted is bound at the port whose
number was checked, or at the path or in the directory that it was found to name, so that no number is read
anew and fails, and no directory stands in for a missing one.
-/
namespace MessageBus.Listener
open Address

/-- The port of an address as it was checked: the number that its first port option writes, or zero if it
has none. -/
structure PortOf (a : Address) (port : Nat) : Prop where
  checked : readPort ((a.get? "port").getD "0") = .ok port
  written : ∀ text, First a.options "port" text →
    ∃ digits, Number.Decimals text.toList digits ∧ port = Number.ofDigits 10 digits
  absent : (∀ text, ¬ First a.options "port" text) → port = 0
  small : port ≤ 65535

/-- Where a unix address is bound, and in which world: at the path that it gives, or else under a new name
right in the directory that it gives. -/
inductive PathOf (a : Address) (w : World) : Address.Place → String → World → Prop
  | given {path : String} (hpath : First a.options "path" path) (hfilled : path ≠ "") :
      PathOf a w (.path path) path w
  | generated {directory name : String} (hpath : ¬ Fills a.options "path")
      (hdirectory : First a.options "tmpdir" directory) (hfilled : directory ≠ "")
      (hname : name = "busd-" ++ w.freshName.1)
      (hunder : Path.ofText (Path.join directory name) =
        { Path.ofText directory with parts := (Path.ofText directory).parts ++ [name] }) :
      PathOf a w (.directory directory) (Path.join directory name) w.freshName.2

variable {a : Address} {text key value : String} {target after : Report.Target} {w : World} {path : String}

theorem given?_eq_some_iff : a.given? key = some value ↔ First a.options key value ∧ value ≠ "" := by
  simp [given?, Option.filter_eq_some_iff, get?_eq_some_iff]

theorem given?_eq_none_iff : a.given? key = none ↔ ¬ Fills a.options key := by
  rw [← isSome_given?_iff, Option.not_isSome_iff_eq_none]

/-! ### Ports -/

theorem exists_portOf (hasked : ∀ text, First a.options "port" text → IsPort text) :
    ∃ port, PortOf a port ∧ askedPort a = .ok port ∧
      Number.readInteger 10 ((a.given? "port").getD "0") = .ok (port : Int) := by
  cases hget : a.get? "port" with
  | none =>
    have hnone : ∀ text, ¬ First a.options "port" text := by
      intro text hfirst
      rw [get?_eq_some_iff.2 hfirst] at hget
      cases hget
    have hgiven : a.given? "port" = none := by rw [given?, hget, Option.filter_none]
    refine ⟨0, ⟨?_, fun text hfirst => absurd hfirst (hnone text), fun _ => rfl, Nat.zero_le _⟩, ?_, ?_⟩
    · rw [hget]
      rfl
    · rw [askedPort, hgiven]
    · rw [hgiven]
      rfl
  | some text =>
    have hfirst : First a.options "port" text := get?_eq_some_iff.1 hget
    have hport := hasked text hfirst
    obtain ⟨digits, hdigits, hsmall, hread, hinteger⟩ := hport.exists_number
    have hgiven : a.given? "port" = some text := given?_eq_some_iff.2 ⟨hfirst, hport.ne_empty⟩
    refine ⟨Number.ofDigits 10 digits, ⟨?_, ?_, fun hnone => absurd hfirst (hnone text), hsmall⟩, ?_, ?_⟩
    · rwa [hget]
    · intro other hother
      rw [get?_eq_some_iff.2 hother] at hget
      cases hget
      exact ⟨digits, hdigits, rfl⟩
    · rw [askedPort, hgiven]
      dsimp only
      rw [hinteger]
      rfl
    · rwa [hgiven]

theorem bindPort_ne_number (host : String) (port : Nat) (w : World) (fault : Number.Fault) :
    (bindPort host port w).1 ≠ .error (.number fault) := by
  obtain ⟨r, w', hbind, -, -, ⟨words, -, rfl⟩ | ⟨e, rfl⟩ | ⟨l, rfl, -⟩⟩ := bindPort_cases host port w <;>
    simp [hbind]

/-! ### Paths -/

theorem slash_notMem_hex (width n : Nat) : '/' ∉ Text.hex width n := by
  have hdigit : ∀ d < 16, Nat.digitChar d ≠ '/' := by decide
  intro hmem
  obtain hzero | hmem := List.mem_append.1 hmem
  · exact absurd (List.eq_of_mem_replicate hzero) (by decide)
  · obtain ⟨d, hd, hc⟩ := Number.exists_digitChar_of_mem_toDigits (by decide) hmem
    exact hdigit d hd hc.symm

/-- A generated name is one part of a path. -/
theorem isPart_freshName (w : World) : Path.IsPart ("busd-" ++ w.freshName.1) where
  counts := by simp [Path.counts]
  slashless := by
    have hname : '/' ∉ (Text.hex 32 (w.platform.unique (w.namesGiven + 1)).toNat).take 10 :=
      fun hmem => slash_notMem_hex _ _ (List.mem_of_mem_take hmem)
    simp [World.freshName, hname]

theorem exists_pathOf (hasked : ¬ (Fills a.options "path" ↔ Fills a.options "tmpdir")) (w : World) :
    ∃ place path w₁, PathOf a w place path w₁ ∧ socketPath a w = (path, w₁) ∧
      (a.transport = .unix → a.place = .ok place) := by
  cases hpath : a.given? "path" with
  | some path =>
    obtain ⟨hfirst, hfilled⟩ := given?_eq_some_iff.1 hpath
    refine ⟨_, _, _, .given hfirst hfilled, ?_, fun hunix => ?_⟩
    · rw [socketPath, hpath]
    · rw [place, hunix]
      dsimp only
      rw [hpath]
  | none =>
    have hnone := given?_eq_none_iff.1 hpath
    obtain ⟨directory, hfirst, hfilled⟩ : Fills a.options "tmpdir" := by
      by_contra hother
      exact hasked (iff_of_false hnone hother)
    have hdirectory : a.given? "tmpdir" = some directory := given?_eq_some_iff.2 ⟨hfirst, hfilled⟩
    refine ⟨_, _, _, .generated hnone hfirst hfilled rfl (Path.ofText_join hfilled (isPart_freshName w)), ?_,
      fun hunix => ?_⟩
    · rw [socketPath, hpath]
      dsimp only
      rw [hdirectory]
      rfl
    · rw [place, hunix]
      dsimp only
      rw [hpath, hdirectory]
      rfl

theorem PathOf.ne_empty {place : Address.Place} {w₁ : World} (h : PathOf a w place path w₁) : path ≠ "" := by
  cases h with
  | given hpath hfilled => exact hfilled
  | generated hpath hdirectory hfilled hname hunder => exact join_ne_empty _ (by simp [hname])

/-- An address that was accepted is bound as it was checked, and as others read it. A tcp address is bound at
the port that was checked, of a host that is not empty, and no number fails to be read; a unix address is
bound at the path that it gives or right in the directory that it gives. -/
theorem bind_checked (h : parseInto target text = .ok (some a, after)) (w : World) :
    (a.transport = .tcp → ∃ host port, PortOf a port ∧ host ≠ "" ∧ a.place = .ok (.port host port) ∧
      bind a w = bindPort host port (w.attempt a) ∧ ∀ fault, (bind a w).1 ≠ .error (.number fault)) ∧
    (a.transport = .unix → ∃ place path w₁, PathOf a (w.attempt a) place path w₁ ∧ path ≠ "" ∧
      a.place = .ok place ∧ bind a w = bindPath path w₁) := by
  have hasked := (parseInto_some_iff.1 h).1.asked
  constructor
  · intro htcp
    simp only [Asked, htcp] at hasked
    obtain ⟨port, hport, haskedPort, hinteger⟩ := exists_portOf hasked
    have hbind : bind a w = bindPort ((a.given? "host").getD fallbackHost) port (w.attempt a) := by
      rw [bind]
      simp only [htcp, haskedPort]
    refine ⟨_, port, hport, host_ne_empty a, ?_, hbind, fun fault => ?_⟩
    · rw [place, htcp]
      dsimp only
      rw [hinteger]
      rfl
    · rw [hbind]
      exact bindPort_ne_number _ _ _ fault
  · intro hunix
    simp only [Asked, hunix] at hasked
    obtain ⟨place, path, w₁, hpath, hsocket, hplace⟩ := exists_pathOf hasked (w.attempt a)
    refine ⟨place, path, w₁, hpath, hpath.ne_empty, hplace hunix, ?_⟩
    rw [bind]
    simp only [hunix, hsocket]

/-- A tcp address with two ports, in digits of two scripts, and with an empty host. -/
def twoPorts : Address := ⟨.tcp, [("port", "٣"), ("port", "x,"), ("host", "")]⟩

/-- A unix address with an empty path in front of a directory and of another path. -/
def emptyPath : Address := ⟨.unix, [("path", ""), ("tmpdir", "run/"), ("path", "x")]⟩

/-- Of options that repeat, the first one is checked and used. -/
theorem bind_checked_repeated :
    parseInto .clear "tcp:port=٣,,port=x%2C,host=" = .ok (some twoPorts, .clear) ∧
      bind twoPorts World.empty = bindPort "127.0.0.1" 3 (World.empty.attempt twoPorts) ∧
      parseInto .clear "unix:path=,tmpdir=run%2F,path=x" = .ok (some emptyPath, .clear) ∧
      bind emptyPath World.empty =
        bindPath "run/busd-0000000001" (World.empty.attempt emptyPath).freshName.2 := by
  have htcp : parseInto .clear "tcp:port=٣,,port=x%2C,host=" = .ok (some twoPorts, .clear) := rfl
  have hunix : parseInto .clear "unix:path=,tmpdir=run%2F,path=x" = .ok (some emptyPath, .clear) := rfl
  obtain ⟨host, port, -, -, hplace, hport, -⟩ := (bind_checked htcp World.empty).1 rfl
  obtain ⟨place, path, w₁, hpath, -, -, hsocket⟩ := (bind_checked hunix World.empty).2 rfl
  refine ⟨htcp, ?_, hunix, ?_⟩
  · have hthree : twoPorts.place = .ok (.port "127.0.0.1" 3) := rfl
    rw [hthree] at hplace
    cases hplace
    exact hport
  · rw [hsocket]
    cases hpath with
    | given hgiven hfilled =>
      have hempty : emptyPath.get? "path" = some "" := rfl
      rw [get?_eq_some_iff.2 hgiven] at hempty
      cases hempty
      exact absurd rfl hfilled
    | generated _ hdirectory _ hname =>
      have hrun : emptyPath.get? "tmpdir" = some "run/" := rfl
      rw [get?_eq_some_iff.2 hdirectory] at hrun
      cases hrun
      cases hname
      rfl

end MessageBus.Listener
