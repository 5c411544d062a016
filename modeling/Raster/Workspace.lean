import Raster.Shade
import Raster.Codec.Encode

set_option autoImplicit false

/-!
# Workspaces

A workspace holds surfaces by name, as a script of image operations sees them. Each step computes
one surface from surfaces already there, or takes a given one, and stores it under its target
name; a step that fails leaves the workspace as it was. A step reads its sources before it
stores, so a copy from a surface into itself reads the old contents.
-/

namespace Raster

/-- Surfaces by name. -/
structure Workspace where
  surfaces : List (String × Surface) := []

/-- One step of a script; every step but `set` names its source surfaces. -/
inductive Workspace.Step where
  /-- Stores a given surface, or fails with the error of making it. -/
  | set (name : String) (surface : Except Error Surface)
  /-- Blits `src` into `dst`. -/
  | copy (src dst : String) (scale : Bool) (key : Option Nat)
  /-- Fills a surface with one colour. -/
  | fill (name : String) (color : Nat)
  | convert (src name : String) (width height : Option Nat) (format : Option PixelFormat)
  | shade (src name : String) (divisor : Nat)
  | tint (src name : String) (color : Nat)
  /-- Encodes as raw565 and decodes again, with `dec` for a PNG. -/
  | rawRoundTrip (dec : Png.Decoder) (src name : String)
  /-- Encodes as PNG and decodes again, through `codec`. -/
  | pngRoundTrip (codec : Png.Codec) (src name : String) (width height : Option Nat)

/-- Why a step fails: a name with no surface, or an error of the operation. -/
inductive Workspace.Failure where
  | unknown (name : String)
  | error (e : Error)

namespace Workspace

/-- The surface with a name. -/
def get? (w : Workspace) (name : String) : Option Surface :=
  w.surfaces.lookup name

/-- Stores a surface under a name, replacing any surface of that name. -/
def put (w : Workspace) (name : String) (s : Surface) : Workspace :=
  ⟨(name, s) :: w.surfaces.filter (·.1 != name)⟩

/-- The name a step stores its result under. -/
def Step.target : Step → String
  | .set n _ | .copy _ n _ _ | .fill n _ | .convert _ n _ _ _ | .shade _ n _ | .tint _ n _
  | .rawRoundTrip _ _ n | .pngRoundTrip _ _ n _ _ => n

/-- The surface with a name, or the failure of a missing one. -/
def need (w : Workspace) (name : String) : Except Failure Surface :=
  match w.get? name with
  | some s => .ok s
  | none => .error (.unknown name)

/-- Lifts an operation's result. -/
def lift (r : Except Error Surface) : Except Failure Surface :=
  r.mapError .error

/-- **What a step computes** from the workspace. -/
def Step.result (w : Workspace) : Step → Except Failure Surface
  | .set _ s => lift s
  | .copy src dst scale key => do
    let s ← w.need src
    let d ← w.need dst
    lift (s.blit d scale key)
  | .fill n c => do lift ((← w.need n).fill565 c)
  | .convert src _ width height format => do lift ((← w.need src).convert width height format)
  | .shade src _ d => do lift ((← w.need src).shade d)
  | .tint src _ c => do lift ((← w.need src).tint c)
  | .rawRoundTrip dec src _ => do lift (encodeRaw (← w.need src) >>= decode dec)
  | .pngRoundTrip codec src _ width height => do
    lift (encodePng codec.encoder (← w.need src) width height >>= decode codec.decoder)

/-- **Runs a step**: its result, and the workspace with the result stored on success. -/
def run (w : Workspace) (step : Step) : Except Failure Surface × Workspace :=
  match step.result w with
  | .ok s => (.ok s, w.put step.target s)
  | .error f => (.error f, w)

end Workspace

end Raster
