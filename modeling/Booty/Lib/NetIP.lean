import Mathlib

namespace Booty.Lib

open Prod

/-!
# Addresses and prefixes

The values of Go's `netip.Addr` and `netip.Prefix`.  The text forms of addresses are not modelled:
code that prints or parses one takes the function as a parameter.
-/

/-- A `netip.Addr`: the zero value is invalid, a zone belongs to IPv6 addresses only. -/
inductive Addr
  | invalid
  | v4 (ip : BitVec 32)
  | v6 (ip : BitVec 128) (zone : String)
deriving DecidableEq, Repr

namespace Addr

/-- `Addr.IsValid`. -/
def isValid : Addr → Bool
  | invalid => false
  | _ => true

/-- `IsUnspecified` compares with the two zero addresses, so a zone makes a difference. -/
def isUnspecified : Addr → Bool
  | invalid => false
  | v4 ip => ip == 0
  | v6 ip zone => ip == 0 && zone == ""

/-- `Addr.Is4In6`. -/
def is4In6 : Addr → Bool
  | v6 ip _ => ip.toNat / 2 ^ 32 == 0xffff
  | _ => false

/-- An IPv4-mapped IPv6 address as the IPv4 address in it. -/
def unmap (a : Addr) : Addr :=
  match a with
  | v6 ip _ => if a.is4In6 then v4 (BitVec.ofNat 32 ip.toNat) else a
  | _ => a

/-- `Addr.IsLinkLocalUnicast`. -/
def isLinkLocalUnicast (a : Addr) : Bool :=
  match a.unmap with
  | invalid => false
  | v4 ip => ip.toNat / 2 ^ 16 == 0xa9fe      -- 169.254.0.0/16
  | v6 ip _ => ip.toNat / 2 ^ 118 == 0x3fa    -- fe80::/10

/-- `Addr.BitLen`. -/
def bitLen : Addr → Nat
  | invalid => 0
  | v4 _ => 32
  | v6 _ _ => 128

/-- The number that the address is. -/
def bits : Addr → Nat
  | invalid => 0
  | v4 ip => ip.toNat
  | v6 ip _ => ip.toNat

/-- `Addr.Zone`. -/
def zone : Addr → String
  | v6 _ zone => zone
  | _ => ""

/-- `WithZone("")`. -/
def withoutZone : Addr → Addr
  | v6 ip _ => v6 ip ""
  | a => a

/-- `Is4`. -/
def is4 : Addr → Bool
  | v4 _ => true
  | _ => false

/-- `Is6`. -/
def is6 : Addr → Bool
  | v6 _ _ => true
  | _ => false

/-- The three keys that `Addr.Compare` compares one after another. -/
def rank (a : Addr) : ℕ ×ₗ ℕ ×ₗ String := toLex (a.bitLen, toLex (a.bits, a.zone))

/-- `Addr.Compare` tells different addresses apart. -/
theorem rank_injective : Function.Injective rank := by
  intro a b h
  have h' : a.bitLen = b.bitLen ∧ a.bits = b.bits ∧ a.zone = b.zone := by
    have h1 : (a.bitLen, toLex (a.bits, a.zone)) = (b.bitLen, toLex (b.bits, b.zone)) :=
      toLex.injective h
    have h2 : (a.bits, a.zone) = (b.bits, b.zone) := toLex.injective (mk.inj h1).2
    exact ⟨(mk.inj h1).1, (mk.inj h2).1, (mk.inj h2).2⟩
  obtain ⟨hlen, hbits, hzone⟩ := h'
  cases a <;> cases b <;> simp_all [bitLen, bits, zone, BitVec.toNat_inj]

end Addr

/-- A `netip.Prefix`. -/
structure Prefix where
  addr : Addr
  bits : Nat
deriving DecidableEq, Repr

/-- `Prefix.Masked`: the host bits cleared. -/
def Prefix.masked (p : Prefix) : Prefix :=
  match p.addr with
  | .invalid => p
  | .v4 ip => { p with addr := .v4 (ip >>> (32 - p.bits) <<< (32 - p.bits)) }
  | .v6 ip _ => { p with addr := .v6 (ip >>> (128 - p.bits) <<< (128 - p.bits)) "" }

end Booty.Lib
