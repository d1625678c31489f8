import Booty.Lib.Bytes

namespace Booty.Bfd

open Booty.Lib List

/-!
# BFD control packets (`pkg/network/bfd/packet.go`)

The 24-byte control packet of RFC 5880 4.1: `Packet.marshal` writes it, `parse` decodes one
and applies the checks of RFC 5880 6.8.6 that need no session state.

* `parse_eq_ok` — what an accepted packet satisfies;
* `parse_marshal` — a packet that passes the checks survives `marshal` and `parse` unchanged.
-/

/-- A BFD session state (RFC 5880 4.1). -/
inductive State
  | adminDown
  | down
  | init
  | up
  deriving DecidableEq, Repr

/-- The value of a state on the wire. -/
def State.toByte : State → UInt8
  | .adminDown => 0
  | .down => 1
  | .init => 2
  | .up => 3

/-- The state with a two-bit wire value. -/
def State.ofBits (v : UInt8) : State :=
  match v.toNat with
  | 0 => .adminDown
  | 1 => .down
  | 2 => .init
  | _ => .up

/-- A diagnostic code (RFC 5880 4.1); a received one may be any five-bit value. -/
abbrev Diag := UInt8

/-- No diagnostic. -/
def diagNone : Diag := 0

/-- The detection time expired. -/
def diagTimeExpired : Diag := 1

/-- The neighbor said that the session is down. -/
def diagNeighborSaysDown : Diag := 3

/-- The length of a control packet without authentication. -/
def packetLen : Nat := 24

/-- A BFD control packet.  Intervals are in microseconds, as on the wire. -/
structure Packet where
  diag : Diag
  state : State
  poll : Bool := false
  final : Bool := false
  controlPlaneIndep : Bool := false
  authPresent : Bool := false
  demand : Bool := false
  multipoint : Bool := false
  detectMult : UInt8
  myDiscriminator : UInt32
  yourDiscriminator : UInt32
  desiredMinTxUS : UInt32
  requiredMinRxUS : UInt32
  requiredMinEchoRxUS : UInt32
  deriving DecidableEq, Repr

/-! ### `Marshal` -/

/-- `bit` when the flag is set. -/
def flag (set : Bool) (bit : UInt8) : UInt8 := if set then bit else 0

/-- The first byte: version 1 and the diagnostic code. -/
def versionByte (d : Diag) : UInt8 := ((1 : UInt8) <<< 5) ||| (d &&& 0x1f)

/-- The second byte: the state and the flags.  The authentication bit is never set. -/
def flagsByte (p : Packet) : UInt8 :=
  (p.state.toByte <<< 6) ||| flag p.poll 0x20 ||| flag p.final 0x10 |||
    flag p.controlPlaneIndep 0x08 ||| flag p.demand 0x02 ||| flag p.multipoint 0x01

/-- `Packet.Marshal`: BOOTy never sends authentication. -/
def Packet.marshal (p : Packet) : Bytes :=
  [versionByte p.diag, flagsByte p, p.detectMult, UInt8.ofNat packetLen] ++
    (putBigEndian 4 p.myDiscriminator.toNat ++
    (putBigEndian 4 p.yourDiscriminator.toNat ++
    (putBigEndian 4 p.desiredMinTxUS.toNat ++
    (putBigEndian 4 p.requiredMinRxUS.toNat ++
      putBigEndian 4 p.requiredMinEchoRxUS.toNat))))

/-! ### `Parse` -/

/-- The errors of `Parse`.  Each one means "discard the packet" (RFC 5880 6.8.6). -/
inductive ParseError
  | short
  | version
  | length
  | detectMult
  | multipoint
  | myDiscr
  | yourDiscr
  | authNotWanted
  deriving DecidableEq, Repr

/-- The text of an error of `Parse`. -/
def ParseError.text : ParseError → String
  | .short => "bfd: packet too short"
  | .version => "bfd: version is not 1"
  | .length => "bfd: bad length field"
  | .detectMult => "bfd: detect multiplier is zero"
  | .multipoint => "bfd: multipoint bit set"
  | .myDiscr => "bfd: my discriminator is zero"
  | .yourDiscr => "bfd: your discriminator is zero in state Init or Up"
  | .authNotWanted => "bfd: authentication present but not configured"

/-- `binary.BigEndian.Uint32(b[off:])`; the callers have checked the length. -/
def uint32At (b : Bytes) (off : Nat) : UInt32 := UInt32.ofNat (bigEndian (window b off 4))

/-- The fields of a control packet, before any check of `Parse`. -/
def fields (b : Bytes) : Packet where
  diag := byteAt b 0 &&& 0x1f
  state := State.ofBits (byteAt b 1 >>> 6)
  poll := byteAt b 1 &&& 0x20 != 0
  final := byteAt b 1 &&& 0x10 != 0
  controlPlaneIndep := byteAt b 1 &&& 0x08 != 0
  authPresent := byteAt b 1 &&& 0x04 != 0
  demand := byteAt b 1 &&& 0x02 != 0
  multipoint := byteAt b 1 &&& 0x01 != 0
  detectMult := byteAt b 2
  myDiscriminator := uint32At b 4
  yourDiscriminator := uint32At b 8
  desiredMinTxUS := uint32At b 12
  requiredMinRxUS := uint32At b 16
  requiredMinEchoRxUS := uint32At b 20

/-- The final `switch` of `Parse`: the checks on the decoded fields. -/
def checkFields (p : Packet) : Except ParseError Packet :=
  if p.detectMult = 0 then .error .detectMult
  else if p.multipoint then .error .multipoint
  else if p.myDiscriminator = 0 then .error .myDiscr
  else if p.yourDiscriminator = 0 ∧ p.state ≠ .down ∧ p.state ≠ .adminDown then .error .yourDiscr
  else if p.authPresent then .error .authNotWanted
  else .ok p

/-- `Parse`: decode a control packet and apply the stateless checks. -/
def parse (b : Bytes) : Except ParseError Packet :=
  if b.length < packetLen then .error .short
  else if byteAt b 0 >>> 5 ≠ 1 then .error .version
  else
    let p := fields b
    let minLen := if p.authPresent then 26 else packetLen
    if (byteAt b 3).toNat < minLen ∨ (byteAt b 3).toNat > b.length then .error .length
    else checkFields p

/-! ### What an accepted packet satisfies -/

/-- The checks of `Parse` on the decoded fields. -/
structure Packet.Valid (p : Packet) : Prop where
  detectMult : p.detectMult ≠ 0
  multipoint : p.multipoint = false
  myDiscriminator : p.myDiscriminator ≠ 0
  yourDiscriminator : p.yourDiscriminator ≠ 0 ∨ p.state = .down ∨ p.state = .adminDown
  authPresent : p.authPresent = false

theorem checkFields_eq_ok {p q : Packet} : checkFields p = .ok q ↔ q = p ∧ p.Valid := by
  unfold checkFields
  constructor
  · intro h
    split at h <;> [cases h; skip]
    split at h <;> [cases h; skip]
    split at h <;> [cases h; skip]
    split at h <;> [cases h; skip]
    split at h <;> [cases h; skip]
    rename_i hmult hmulti hmy hyour hauth
    refine ⟨(Except.ok.inj h).symm, hmult, by simpa using hmulti, hmy, ?_, by simpa using hauth⟩
    by_contra hc
    rw [not_or, not_or] at hc
    exact hyour ⟨not_not.mp hc.1, hc.2⟩
  · rintro ⟨rfl, h⟩
    have hyour : ¬ (q.yourDiscriminator = 0 ∧ q.state ≠ .down ∧ q.state ≠ .adminDown) := by
      rintro ⟨h0, hd, ha⟩
      rcases h.yourDiscriminator with h1 | h1 | h1
      · exact h1 h0
      · exact hd h1
      · exact ha h1
    rw [if_neg h.detectMult, if_neg (by simp [h.multipoint]), if_neg h.myDiscriminator,
      if_neg hyour, if_neg (by simp [h.authPresent])]

/-- A packet that `parse` returns has the fields on the wire and passes the checks. -/
theorem parse_eq_ok {b : Bytes} {p : Packet} (h : parse b = .ok p) : p = fields b ∧ p.Valid := by
  unfold parse at h
  split at h <;> [cases h; skip]
  split at h <;> [cases h; skip]
  by_cases hlen : (byteAt b 3).toNat < (if (fields b).authPresent then 26 else packetLen) ∨
      (byteAt b 3).toNat > b.length
  · rw [if_pos hlen] at h; cases h
  · rw [if_neg hlen] at h
    obtain ⟨rfl, hv⟩ := checkFields_eq_ok.mp h
    exact ⟨rfl, hv⟩

/-! ### The round trip -/

theorem versionByte_bits (d : Diag) (h : d < 32) :
    versionByte d >>> 5 = 1 ∧ versionByte d &&& 0x1f = d := by
  obtain ⟨⟨⟨n, hn⟩⟩⟩ := d
  revert h
  revert n
  decide +kernel

variable (p : Packet)

/-- Every field of the flags byte reads back; the authentication bit reads as clear. -/
theorem flagsByte_bits :
    State.ofBits (flagsByte p >>> 6) = p.state ∧ (flagsByte p &&& 0x20 != 0) = p.poll ∧
      (flagsByte p &&& 0x10 != 0) = p.final ∧ (flagsByte p &&& 0x08 != 0) = p.controlPlaneIndep ∧
      (flagsByte p &&& 0x04 != 0) = false ∧ (flagsByte p &&& 0x02 != 0) = p.demand ∧
      (flagsByte p &&& 0x01 != 0) = p.multipoint := by
  unfold flagsByte
  generalize p.state = s
  generalize p.poll = f1
  generalize p.final = f2
  generalize p.controlPlaneIndep = f3
  generalize p.demand = f4
  generalize p.multipoint = f5
  cases s <;> cases f1 <;> cases f2 <;> cases f3 <;> cases f4 <;> cases f5 <;> decide

theorem length_marshal : p.marshal.length = packetLen := by
  simp [Packet.marshal, packetLen]

/-- A four-byte field inside a byte string reads back the number that was put there. -/
theorem uint32At_putBigEndian (pre post : Bytes) (v : UInt32) (off : Nat) (h : pre.length = off) :
    uint32At (pre ++ (putBigEndian 4 v.toNat ++ post)) off = v := by
  have hslice : window (pre ++ (putBigEndian 4 v.toNat ++ post)) off 4
      = putBigEndian 4 v.toNat := by
    rw [window_eq_slice (by simp [h]), drop_left' h, take_left' (by simp)]
  have hv := v.toNat_lt
  rw [uint32At, hslice, bigEndian_putBigEndian, Nat.mod_eq_of_lt (by norm_num; omega)]
  exact UInt32.ofNat_toNat

/-- The fields of a marshalled packet are the fields of the packet. -/
theorem fields_marshal (hdiag : p.diag < 32) (hauth : p.authPresent = false) :
    fields p.marshal = p := by
  have h0 : byteAt p.marshal 0 = versionByte p.diag := rfl
  have h1 : byteAt p.marshal 1 = flagsByte p := rfl
  have h2 : byteAt p.marshal 2 = p.detectMult := rfl
  obtain ⟨hst, hpoll, hfinal, hcpi, hau, hdem, hmulti⟩ := flagsByte_bits p
  have hmy : uint32At p.marshal 4 = p.myDiscriminator := uint32At_putBigEndian _ _ _ 4 rfl
  have hyour : uint32At p.marshal 8 = p.yourDiscriminator := by
    rw [Packet.marshal, ← append_assoc]
    exact uint32At_putBigEndian _ _ _ 8 (by simp)
  have htx : uint32At p.marshal 12 = p.desiredMinTxUS := by
    rw [Packet.marshal, ← append_assoc, ← append_assoc]
    exact uint32At_putBigEndian _ _ _ 12 (by simp)
  have hrx : uint32At p.marshal 16 = p.requiredMinRxUS := by
    rw [Packet.marshal, ← append_assoc, ← append_assoc, ← append_assoc]
    exact uint32At_putBigEndian _ _ _ 16 (by simp)
  have hecho : uint32At p.marshal 20 = p.requiredMinEchoRxUS := by
    rw [Packet.marshal, ← append_assoc, ← append_assoc, ← append_assoc, ← append_assoc]
    exact uint32At_putBigEndian _ _ _ 20 (by simp)
  unfold fields
  rw [h0, h1, h2, (versionByte_bits p.diag hdiag).2, hst, hpoll, hfinal, hcpi, hau, hdem, hmulti,
    hmy, hyour, htx, hrx, hecho, ← hauth]

/-- **Round trip.** A packet with a five-bit diagnostic code that passes the checks of
    `Parse` is accepted unchanged after `Marshal`. -/
theorem parse_marshal (hdiag : p.diag < 32) (hv : p.Valid) : parse p.marshal = .ok p := by
  have hlen : (byteAt p.marshal 3).toNat = packetLen := rfl
  have hfields := fields_marshal p hdiag hv.authPresent
  have hver : byteAt p.marshal 0 >>> 5 = 1 := (versionByte_bits p.diag hdiag).1
  unfold parse
  rw [if_neg (by rw [length_marshal]; omega), if_neg (by rw [hver]; exact fun h => h rfl)]
  simp only [hfields, hv.authPresent]
  exact checkFields_eq_ok.mpr ⟨rfl, hv⟩

end Booty.Bfd
