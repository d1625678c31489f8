import Booty.Dhcp4.Lease
import Booty.Dhcp6.Message

namespace Booty.Network

/-!
# The times of a lease, in both versions

Whatever 32-bit times a server sends, the client renews before it rebinds and rebinds before the
lease ends; for DHCPv4 strictly before, since a lease time of 0 is not accepted there.

* `lease_times_ordered` — every accepted OFFER or ACK, and every DHCPv6 message with an address.
-/

/-- **The times of accepted leases.**  For DHCPv6 they are those of the last IA with our IAID. -/
theorem lease_times_ordered :
    (∀ (payload : Option Dhcp4.Header) (now : Int) (r : Dhcp4.Reply),
      Dhcp4.decodeReply payload now = some r → r.typ = .offer ∨ r.typ = .ack →
        ∃ hd, payload = some hd ∧ r.lease.Timed now hd) ∧
    ∀ (d : Dhcp6.Datagram) (iaid : UInt32) (now : Int) (r : Dhcp6.Reply),
      Dhcp6.decode d iaid now = .ok r → r.hasAddr = true → ∃ p ia a, d = .message p ∧
        p.lastIA iaid = some ia ∧ ia.chosen = some a ∧ r.lease.Timed now ia a :=
  ⟨fun _ _ _ h htyp => Dhcp4.decodeReply_timed h htyp,
    fun _ _ _ _ h haddr => Dhcp6.decode_timed h haddr⟩

/-- A lease of one second, and an endless one after an IA without an address. -/
theorem lease_times_ordered_extremes :
    let offer : Dhcp4.Header := ⟨.offer, 7, [], 0x0a000005, some 0x0a000001, 1, 9, 0, false, false⟩
    let ias : List Dhcp6.Opt := [.serverID [1], .iaNA (some ⟨5, 9, 3, none, []⟩),
      .iaNA (some ⟨5, 0, 0, none, [some ⟨1, 0xffffffff, 0xffffffff, none⟩]⟩)]
    (∃ r, Dhcp4.decodeReply (some offer) 0 = some r ∧ r.lease.Timed 0 offer) ∧
      ∃ r ia a, Dhcp6.decode (.message ⟨.reply, 7, ias⟩) 5 0 = .ok r ∧ r.lease.Timed 0 ia a := by
  intro offer ias
  constructor
  · have hr := (Option.some_get (x := Dhcp4.decodeReply (some offer) 0) rfl).symm
    obtain ⟨hd, heq, htimed⟩ := lease_times_ordered.1 _ 0 _ hr (.inl rfl)
    cases heq
    exact ⟨_, hr, htimed⟩
  · cases hr : Dhcp6.decode (.message ⟨.reply, 7, ias⟩) 5 0 with
    | error e => cases hr
    | ok r =>
      obtain ⟨p, ia, a, -, -, -, htimed⟩ := lease_times_ordered.2 _ 5 0 r hr (by cases hr; rfl)
      exact ⟨r, ia, a, rfl, htimed⟩

end Booty.Network
