import Backplane.Profile.Spec

/-!
# The demonstration machine

A machine of 64 KiB with a bank of memory over its monitor ROM:

* `$0000-$BFFF` main memory
* `$C000-$C0FF` switches: a read of `$C080` shows the bank, touching `$C081`
  hides it, and a write to `$C08F` stores mode 1
* `$C800-$CFFF` an expansion window, half ROM and half memory
* `$D000-$FFFF` monitor ROM, with the reset vector at `$FFFC`, under the bank
-/

namespace Backplane.Profile

/-- The name of the layer that shows the bank. -/
def bankLayer : String := "lc-bank"

/-- The image of the monitor ROM: no-operations, and the reset vector `$FA62`,
low byte first. -/
def monitorRom : List UInt8 :=
  List.replicate 0x2FFC 0xEA ++ [0x62, 0xFA] ++ List.replicate 2 0xEA

/-- The address space of the demonstration machine. -/
def demoMachine : MachineProfile where
  name := "demo-ii"
  regions :=
    [{ name := "main-ram", start := 0x0000, size := 0xC000, kind := .memory (.ram 0),
       region := .ram },
     { name := "expansion", start := 0xC800, size := 0x0800,
       kind := .composite
         [{ offset := 0, size := 0x400, label := "rom-half", region := .expansionRom,
            backing := .rom [] 0x60 },
          { offset := 0x400, size := 0x400, label := "ram-half", region := .ram,
            backing := .ram 0 }],
       region := .composite },
     { name := "monitor-rom", start := 0xD000, size := 0x3000,
       kind := .memory (.rom monitorRom 0xEA), perms := .readExecute, region := .rom }]

/-- The demonstration machine. -/
def demo : MonitorProfile where
  machine := demoMachine
  layers := [{ name := bankLayer, priority := 10, start := 0xD000, size := 0x3000 }]
  blocks :=
    [{ name := "softswitch", start := 0xC000, size := 0x100,
       switches :=
         [{ offset := 0x80, onRead := some (.activate bankLayer) },
          { offset := 0x81, onRead := some (.deactivate bankLayer),
            onWrite := some (.deactivate bankLayer) },
          { offset := 0x8F, onWrite := some (.latch 1) }] }]

end Backplane.Profile
