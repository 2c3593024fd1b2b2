import FlashBoot.Board.Setup
import FlashBoot.Flash.Recovery
import FlashBoot.Image.Request

/-!
# Booting

One boot attempt initialises the bus controller, identifies the flash, erases page 0 if recovery is
requested, and otherwise loads an image and perhaps a second one (`Loader.load`). Whatever it
reports, the controller is switched off again, so everything an attempt does on the bus lies between
its enable and its disable. `Loader.loadAll` makes attempt after attempt on one board, each after a
change of its setup.
-/

namespace FlashBoot

/-- The platform side of the bus. -/
inductive Controller where
  /-- A controller that has to be initialised, which may fail, and switched on and off. -/
  | switched (initialises : Bool)
  /-- A controller that needs nothing. -/
  | alwaysOn
  deriving DecidableEq

namespace Controller

/-- Records a call if the controller is one that notices it. -/
def call (c : Controller) (call : ControllerCall) : Drive Unit :=
  match c with
  | .switched _ => Drive.emit (.controller call)
  | .alwaysOn => return ()

/-- Initialises the controller and tells whether that worked. -/
def init (c : Controller) : Drive Bool := do
  c.call .init
  return c ≠ .switched false

/-- Switches the controller on. -/
def enable (c : Controller) : Drive Unit := c.call .enable

/-- Switches the controller off. -/
def disable (c : Controller) : Drive Unit := c.call .disable

end Controller

/-- What one boot attempt is asked to do. -/
structure Attempt where
  signal : Signal
  headers : HeaderParser
  image : Request
  /-- A second image, usually the device tree. -/
  tree : Option Request

/-- How a boot attempt that did not fail ended. -/
inductive BootResult where
  /-- The images were copied, with these lengths. -/
  | loaded (image : UInt32) (tree : Option UInt32)
  /-- Page 0 was erased on request. -/
  | recoveryPerformed
  deriving DecidableEq

/-- What a boot attempt leaves: its result and the requests afterwards. -/
structure Report where
  result : Except Failure BootResult
  image : Request
  tree : Option Request

/-- Whether the machine stopped during the attempt. -/
def Report.isTrap (r : Report) : Bool :=
  match r.result with
  | .error failure => failure.isTrap
  | .ok _ => false

/-- The report of an attempt that touched none of its requests. -/
def Attempt.untouched (a : Attempt) (result : Except Failure BootResult) : Report :=
  ⟨result, a.image, a.tree⟩

/-- Loads the first image of an attempt and then its second one. -/
def Flash.loadImages (f : Flash) (a : Attempt) : Drive Report := do
  let image ← f.loadImage a.headers a.image
  match image.result, a.tree with
  | .error failure, _ => return ⟨.error failure, image.request, a.tree⟩
  | .ok length, none => return ⟨.ok (.loaded length none), image.request, none⟩
  | .ok length, some tree =>
    let tree ← f.loadImage a.headers tree
    return ⟨tree.result.map fun treeLength => .loaded length (some treeLength), image.request,
      some tree.request⟩

/-- Loads boot images over one bus controller. -/
structure Loader where
  build : Build
  config : Config
  controller : Controller

namespace Loader

/-- Identifies the flash, noting a failure. -/
def probe (l : Loader) : Run Flash :=
  Run.logError (Flash.probe l.build l.config) .probeFailed

/-- Recovers the flash if that is requested and the build can. -/
def recover (l : Loader) (f : Flash) (signal : Signal) : Run Recovery :=
  if l.build.recovery then f.recover signal l.config else return .notRequested

/-- An attempt on a bus that is switched on. -/
def boot (l : Loader) (a : Attempt) : Drive Report := do
  let ready : Except Failure (Flash × Recovery) ← ExceptT.run do
    let f ← l.probe
    return (f, ← l.recover f a.signal)
  match ready with
  | .error failure => return a.untouched (.error failure)
  | .ok (_, .succeeded) => return a.untouched (.ok .recoveryPerformed)
  | .ok (f, .notRequested) => f.loadImages a

/-- One boot attempt. Only a trap, which stops the machine, leaves the controller switched on. -/
def load (l : Loader) (a : Attempt) : Drive Report := do
  if ← l.controller.init then
    l.controller.enable
    let report ← l.boot a
    if !report.isTrap then l.controller.disable
    return report
  else
    Drive.log .controllerInitFailed
    return a.untouched (.error (.error (.probe .busInit)))

/-- Attempt after attempt on one board, each after its setup. An attempt that ends in a trap leaves
the board as it was then, like any other. -/
def loadAll (l : Loader) : List (Setup × Attempt) → Board → List (Outcome Report)
  | [], _ => []
  | (setup, attempt) :: rest, board =>
    let outcome := l.load attempt (board.configure setup)
    outcome :: l.loadAll rest outcome.board

end Loader

end FlashBoot
