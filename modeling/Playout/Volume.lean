/-!
# Volume

Volume is set in decibels. Below the mute level the output is silent; otherwise the level
is held between -30 dB and 0 dB and turned into a linear gain `10^(dB/20)`, and that into a
16.16 fixed-point factor. An output with its own mixer gets unity gain instead, and the
decibel value is queued for it.
-/

namespace Playout

/-- At or below this level the output is silent. -/
def muteDb : Float := -144.0

/-- Unity gain in 16.16 fixed point. -/
def unityGain : Int := 65536

/-- `x` held between `lo` and `hi`; NaN stays NaN. -/
def clampF (x lo hi : Float) : Float := if x < lo then lo else if x > hi then hi else x

/-- The linear gain of a level in decibels. -/
def dbToLinear (db : Float) : Float :=
  if db.isNaN || db ≤ muteDb then 0.0 else Float.pow 10.0 (clampF db (-30.0) 0.0 / 20.0)

/-- The 16.16 fixed-point factor of a linear gain, truncated; NaN gives zero. -/
def linearToFixed (linear : Float) : Int := (65536.0 * clampF linear 0.0 1.0).toUInt32.toNat

/-- The volume setting of a player. -/
structure VolumeControl where
  db : Float
  linear : Float
  fixed : Int
  /-- The output applies the volume itself. -/
  hardware : Bool := false
  /-- A level not yet handed to the output's mixer. -/
  pending : Option Float := none
deriving Inhabited

namespace VolumeControl

def create (db : Float) : VolumeControl :=
  { db, linear := dbToLinear db, fixed := linearToFixed (dbToLinear db) }

def setDb (v : VolumeControl) (db : Float) : VolumeControl :=
  if v.hardware then { v with db, pending := some db }
  else { v with db, linear := dbToLinear db, fixed := linearToFixed (dbToLinear db) }

/-- Switches between applying the volume in software and handing it to the output. -/
def setHardware (v : VolumeControl) (hw : Bool) : VolumeControl :=
  if hw then { v with hardware := true, linear := 1.0, fixed := unityGain, pending := some v.db }
  else
    { v with
      hardware := false, linear := dbToLinear v.db, fixed := linearToFixed (dbToLinear v.db)
      pending := none }

/-- The queued level for the output's mixer, if any, and the control without it. -/
def takeHardwareUpdate (v : VolumeControl) : Option Float × VolumeControl :=
  (v.pending, { v with pending := none })

@[simp] theorem setHardware_true_fixed (v : VolumeControl) :
    (v.setHardware true).fixed = unityGain := rfl

@[simp] theorem setDb_pending (v : VolumeControl) (db : Float) (h : v.hardware = true) :
    (v.setDb db).pending = some db := by
  simp [setDb, h]

@[simp] theorem takeHardwareUpdate_pending (v : VolumeControl) :
    v.takeHardwareUpdate.2.pending = none := rfl

end VolumeControl

end Playout
