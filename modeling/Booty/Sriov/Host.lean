import Booty.Lib.Journal
import Booty.Sriov.Profile

namespace Booty.Sriov

open Booty.Lib

/-!
# The host under a reconcile

What a reconcile asks the host for: the discovery of the ports, the firmware backends and the
runtime changes.  A run is the journal of what it asked, and an answer may depend on everything
asked before.
-/

/-- A setting that a backend cannot handle, and why. -/
structure Unsupported where
  setting : SettingName
  reason : String

/-- What a backend read from a NIC. -/
structure FirmwareRead where
  /-- The stored values, which the next boot uses. -/
  values : FirmwareSettings := {}
  /-- The values that the firmware runs with, where the backend can tell. -/
  active : FirmwareSettings := {}
  unsupported : List Unsupported := []

/-- A firmware backend: its name, its tool class and the ports it handles. -/
structure Backend where
  name : String
  tool : String
  supports : PF → Bool

/-- What a run asks of the host, with the answers of the calls that change it.  A backend is given
    by its place in the list of the reconciler. -/
inductive Event
  | discover
  | read (backend : Nat) (pf : PF) (want : FirmwareSettings)
  | apply (backend : Nat) (pf : PF) (change : FirmwareSettings) (answer : Except String Bool)
  | setNumVFs (pf : PF) (n : Int) (error : Option String)
  | setEswitch (pf : PF) (mode : String) (error : Option String)
  | setVF (pf : PF) (index : Nat) (s : VFSettings) (mac : String) (error : Option String)
  | reboot

/-- A program that asks the host and always ends. -/
abbrev Calls := Logged Event Empty

/-- The ports that the network of the ramdisk uses: the reason why a port is in use, and its master
    device. -/
structure Uplinks where
  inUse : PF → Option String
  master : PF → String

/-- The answers of a host, each for the run so far. -/
structure Host extends Uplinks where
  answerDiscover : List Event → Except String (List PF)
  answerRead : List Event → Nat → PF → FirmwareSettings → Except String FirmwareRead
  answerApply : List Event → Nat → PF → FirmwareSettings → Except String Bool
  answerNumVFs : List Event → PF → Int → Option String
  answerEswitch : List Event → PF → String → Option String
  answerVF : List Event → PF → Nat → VFSettings → String → Option String

namespace Host

variable (h : Host)

/-- Report the PF ports. -/
def discover : Calls (Except String (List PF)) := .ask h.answerDiscover fun _ => .discover

/-- Read the settings of `want` with a backend. -/
def read (b : Nat) (pf : PF) (want : FirmwareSettings) : Calls (Except String FirmwareRead) :=
  .ask (h.answerRead · b pf want) fun _ => .read b pf want

/-- Store the settings that `change` sets; the value says whether they need a reset. -/
def apply (b : Nat) (pf : PF) (change : FirmwareSettings) : Calls (Except String Bool) :=
  .ask (h.answerApply · b pf change) (.apply b pf change)

/-- Write `sriov_numvfs` of the device of the port. -/
def setNumVFs (pf : PF) (n : Int) : Calls (Option String) :=
  .ask (h.answerNumVFs · pf n) (.setNumVFs pf n)

/-- Set the eSwitch mode of the device of the port. -/
def setEswitch (pf : PF) (mode : String) : Calls (Option String) :=
  .ask (h.answerEswitch · pf mode) (.setEswitch pf mode)

/-- Set the attributes of one VF through the port. -/
def setVF (pf : PF) (index : Nat) (s : VFSettings) (mac : String) : Calls (Option String) :=
  .ask (h.answerVF · pf index s mac) (.setVF pf index s mac)

end Host

end Booty.Sriov
