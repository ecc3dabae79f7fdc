import MessageBus.Text.Quoted
/-!
UTF-8: encoding, strict decoding that names the first fault, and lenient decoding that puts the
replacement character in the place of each longest faulty piece. Main statement: what was encoded is
decoded as it was.
-/
namespace MessageBus.Text.Utf8

/-- The bytes of a character. -/
def encodeChar (c : Char) : List UInt8 :=
  String.utf8EncodeChar c

/-- The bytes of a list of characters. -/
def encode (cs : List Char) : List UInt8 :=
  cs.flatMap encodeChar

/-- How a byte sequence can fail to be UTF-8. -/
inductive Flaw
  | invalidStart
  | invalidContinuation
  | unexpectedEnd
  deriving DecidableEq

/-- What stands at the front of a byte sequence: a character or a faulty piece, with the number of
bytes it has after its first byte. -/
inductive Front
  | char (c : Char) (more : Nat)
  | faulty (flaw : Flaw) (more : Nat)

private def isContinuation (b : UInt8) : Bool :=
  0x80 ≤ b && b ≤ 0xBF

/-- The low six bits of a continuation byte. -/
private def payload (b : UInt8) : Nat :=
  b.toNat % 64

/-- The second byte that may follow a first byte of a long sequence. Overlong forms, surrogates and
values beyond the last code point are shut out here. -/
private def secondFits (first second : UInt8) : Bool :=
  isContinuation second &&
    !(first == 0xE0 && second < 0xA0) && !(first == 0xED && second ≥ 0xA0) &&
    !(first == 0xF0 && second < 0x90) && !(first == 0xF4 && second ≥ 0x90)

/-- The piece that begins with byte `b`. -/
def front (b : UInt8) (rest : List UInt8) : Front :=
  let n := b.toNat
  if n < 0x80 then .char (Char.ofNat n) 0
  else if n < 0xC2 || n > 0xF4 then .faulty .invalidStart 0
  else if n < 0xE0 then
    match rest with
    | [] => .faulty .unexpectedEnd 0
    | b₁ :: _ =>
      if isContinuation b₁ then .char (Char.ofNat ((n % 32) * 64 + payload b₁)) 1
      else .faulty .invalidContinuation 0
  else if n < 0xF0 then
    match rest with
    | [] => .faulty .unexpectedEnd 0
    | b₁ :: rest =>
      if !secondFits b b₁ then .faulty .invalidContinuation 0
      else match rest with
        | [] => .faulty .unexpectedEnd 1
        | b₂ :: _ =>
          if isContinuation b₂ then
            .char (Char.ofNat ((n % 16) * 4096 + payload b₁ * 64 + payload b₂)) 2
          else .faulty .invalidContinuation 1
  else
    match rest with
    | [] => .faulty .unexpectedEnd 0
    | b₁ :: rest =>
      if !secondFits b b₁ then .faulty .invalidContinuation 0
      else match rest with
        | [] => .faulty .unexpectedEnd 1
        | b₂ :: rest =>
          if !isContinuation b₂ then .faulty .invalidContinuation 1
          else match rest with
            | [] => .faulty .unexpectedEnd 2
            | b₃ :: _ =>
              if isContinuation b₃ then
                .char (Char.ofNat
                  ((n % 8) * 262144 + payload b₁ * 4096 + payload b₂ * 64 + payload b₃)) 3
              else .faulty .invalidContinuation 2

/-- The first fault of a byte sequence: where its piece begins, how long it is, the first byte of
the piece and what is wrong. -/
structure Fault where
  start : Nat
  length : Nat
  byte : UInt8
  flaw : Flaw
  deriving DecidableEq

def Flaw.message : Flaw → String
  | .invalidStart => "invalid start byte"
  | .invalidContinuation => "invalid continuation byte"
  | .unexpectedEnd => "unexpected end of data"

def Fault.message (f : Fault) : String :=
  let place :=
    if f.length == 1 then
      "byte 0x" ++ String.ofList (hex 2 f.byte.toNat) ++ " in position " ++ toString f.start
    else "bytes in position " ++ toString f.start ++ "-" ++ toString (f.start + f.length - 1)
  "'utf-8' codec can't decode " ++ place ++ ": " ++ f.flaw.message

/-- Strict decoding from byte `position`, where `skip` bytes still belong to the piece before. -/
def decodeFrom (position : Nat) : (skip : Nat) → List UInt8 → Except Fault (List Char)
  | _, [] => .ok []
  | skip + 1, _ :: rest => decodeFrom (position + 1) skip rest
  | 0, b :: rest =>
    match front b rest with
    | .char c more => (decodeFrom (position + 1) more rest).map (c :: ·)
    | .faulty flaw more => .error ⟨position, more + 1, b, flaw⟩

/-- The characters of a byte sequence, or its first fault. -/
def decode (bs : List UInt8) : Except Fault (List Char) :=
  decodeFrom 0 0 bs

def decodeLenientFrom : (skip : Nat) → List UInt8 → List Char
  | _, [] => []
  | skip + 1, _ :: rest => decodeLenientFrom skip rest
  | 0, b :: rest =>
    match front b rest with
    | .char c more => c :: decodeLenientFrom more rest
    | .faulty _ more => Char.ofNat 0xFFFD :: decodeLenientFrom more rest

/-- The characters of a byte sequence, each faulty piece as one replacement character. -/
def decodeLenient (bs : List UInt8) : List Char :=
  decodeLenientFrom 0 bs


/-- The byte that goes on with a character, for a digit of its number in base 64. -/
private def continuation (n : Nat) : UInt8 := UInt8.ofNat (n % 64 + 0x80)

private theorem toNat_continuation (n : Nat) : (continuation n).toNat = n % 64 + 0x80 := by
  simp [continuation]
  omega

private theorem isContinuation_continuation (n : Nat) : isContinuation (continuation n) = true := by
  simp [isContinuation, UInt8.le_iff_toNat_le, toNat_continuation]
  omega

private theorem payload_continuation (n : Nat) : payload (continuation n) = n % 64 := by
  rw [payload, toNat_continuation]
  omega

private theorem secondFits_continuation {b : UInt8} {n : Nat} (hE0 : b.toNat = 0xE0 → 0x20 ≤ n % 64)
    (hED : b.toNat = 0xED → n % 64 < 0x20) (hF0 : b.toNat = 0xF0 → 0x10 ≤ n % 64)
    (hF4 : b.toNat = 0xF4 → n % 64 < 0x10) : secondFits b (continuation n) = true := by
  simp [secondFits, isContinuation_continuation, ← UInt8.toNat_inj, UInt8.lt_iff_toNat_lt,
    UInt8.le_iff_toNat_le, toNat_continuation]
  omega

private theorem front_two {n : Nat} (hlow : 0x7F < n) (hhigh : n ≤ 0x7FF) (rest : List UInt8) :
    front (UInt8.ofNat (n / 64 % 32 + 0xC0)) (continuation n :: rest) = .char (Char.ofNat n) 1 := by
  have hb : (UInt8.ofNat (n / 64 % 32 + 0xC0)).toNat = n / 64 + 0xC0 := by
    simp
    omega
  have hn : (n / 64 + 0xC0) % 32 * 64 + n % 64 = n := by omega
  simp only [front, hb, isContinuation_continuation, payload_continuation, if_true, hn]
  rw [if_neg (by omega), if_neg (by simp; omega), if_pos (by omega)]

private theorem front_three {n : Nat} (hlow : 0x7FF < n) (hhigh : n ≤ 0xFFFF)
    (hplain : n < 0xD800 ∨ 0xDFFF < n) (rest : List UInt8) :
    front (UInt8.ofNat (n / 4096 % 16 + 0xE0)) (continuation (n / 64) :: continuation n :: rest) =
      .char (Char.ofNat n) 2 := by
  have hb : (UInt8.ofNat (n / 4096 % 16 + 0xE0)).toNat = n / 4096 + 0xE0 := by
    simp
    omega
  have hfits : secondFits (UInt8.ofNat (n / 4096 % 16 + 0xE0)) (continuation (n / 64)) = true := by
    apply secondFits_continuation <;> rw [hb] <;> omega
  have hn : (n / 4096 + 0xE0) % 16 * 4096 + n / 64 % 64 * 64 + n % 64 = n := by omega
  simp only [front, hb, hfits, isContinuation_continuation, payload_continuation, if_true, hn]
  rw [if_neg (by omega), if_neg (by simp; omega), if_neg (by omega), if_pos (by omega)]
  rfl

private theorem front_four {n : Nat} (hlow : 0xFFFF < n) (hhigh : n < 0x110000)
    (rest : List UInt8) :
    front (UInt8.ofNat (n / 262144 % 8 + 0xF0))
      (continuation (n / 4096) :: continuation (n / 64) :: continuation n :: rest) =
      .char (Char.ofNat n) 3 := by
  have hb : (UInt8.ofNat (n / 262144 % 8 + 0xF0)).toNat = n / 262144 + 0xF0 := by
    simp
    omega
  have hfits : secondFits (UInt8.ofNat (n / 262144 % 8 + 0xF0)) (continuation (n / 4096)) = true := by
    apply secondFits_continuation <;> rw [hb] <;> omega
  have hn : (n / 262144 + 0xF0) % 8 * 262144 + n / 4096 % 64 * 4096 + n / 64 % 64 * 64 + n % 64 = n := by
    omega
  simp only [front, hb, hfits, isContinuation_continuation, payload_continuation, if_true, hn]
  rw [if_neg (by omega), if_neg (by simp; omega), if_neg (by omega), if_neg (by omega)]
  rfl

/-- The piece at the front of a character's bytes is the character. -/
theorem front_encodeChar (c : Char) :
    ∃ b more, encodeChar c = b :: more ∧
      ∀ rest, front b (more ++ rest) = .char c more.length := by
  have hc : Char.ofNat c.toNat = c := Char.ofNat_toNat c
  have hvalid : c.toNat < 0xD800 ∨ 0xDFFF < c.toNat ∧ c.toNat < 0x110000 := c.valid
  by_cases hone : c.toNat ≤ 0x7F
  · have hb : (UInt8.ofNat c.toNat).toNat = c.toNat := by
      simp
      omega
    refine ⟨UInt8.ofNat c.toNat, [], if_pos hone, fun rest => ?_⟩
    have hfront : front (UInt8.ofNat c.toNat) rest = .char (Char.ofNat c.toNat) 0 := by
      simp only [front, hb]
      rw [if_pos (by omega)]
    rwa [hc] at hfront
  by_cases htwo : c.toNat ≤ 0x7FF
  · refine ⟨_, [continuation c.toNat], (if_neg hone).trans (if_pos htwo), fun rest => ?_⟩
    have hfront := front_two (by omega) htwo rest
    rwa [hc] at hfront
  by_cases hthree : c.toNat ≤ 0xFFFF
  · refine ⟨_, [continuation (c.toNat / 64), continuation c.toNat],
      (if_neg hone).trans ((if_neg htwo).trans (if_pos hthree)), fun rest => ?_⟩
    have hfront := front_three (by omega) hthree (by omega) rest
    rwa [hc] at hfront
  · refine ⟨_, [continuation (c.toNat / 4096), continuation (c.toNat / 64), continuation c.toNat],
      (if_neg hone).trans ((if_neg htwo).trans (if_neg hthree)), fun rest => ?_⟩
    have hfront := front_four (n := c.toNat) (by omega) (by omega) rest
    rwa [hc] at hfront

theorem decodeLenientFrom_append (bs rest : List UInt8) :
    decodeLenientFrom bs.length (bs ++ rest) = decodeLenient rest := by
  induction bs with
  | nil => rfl
  | cons b bs ih => exact ih

/-- What was encoded is decoded as it was. -/
theorem decodeLenient_encode (cs : List Char) : decodeLenient (encode cs) = cs := by
  induction cs with
  | nil => rfl
  | cons c cs ih =>
    obtain ⟨b, more, hbytes, hfront⟩ := front_encodeChar c
    have hencode : encode (c :: cs) = b :: (more ++ encode cs) := by
      rw [encode, List.flatMap_cons, hbytes]
      rfl
    rw [hencode, decodeLenient, decodeLenientFrom, hfront]
    dsimp only
    rw [decodeLenientFrom_append, ih]
end MessageBus.Text.Utf8
