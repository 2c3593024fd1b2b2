import FlashBoot.Flash.Erase

/-!
# Recovery

At boot a pin is sampled, and page 0 is erased when the recovery signal is asserted. A pin that
cannot be read counts as not asserted.
-/

namespace FlashBoot

/-- What reading the recovery pin gives. -/
inductive Pin where
  | low
  | high
  /-- Reading the pin fails. -/
  | unreadable
  deriving DecidableEq

/-- How recovery is requested. -/
inductive Signal where
  /-- There is no way to request it. -/
  | absent
  /-- By a low pin, like a button to ground. -/
  | activeLow (pin : Pin)
  /-- By a high pin. -/
  | activeHigh (pin : Pin)
  deriving DecidableEq

/-- Samples the signal. -/
def Signal.sample : Signal → Drive Bool
  | .absent => return false
  | .activeLow pin => do
    Drive.emit (.pinRead .low)
    return pin = .low
  | .activeHigh pin => do
    Drive.emit (.pinRead .high)
    return pin = .high

/-- How a recovery that did not fail ended. -/
inductive Recovery where
  /-- Page 0 was erased, and booting must stop here. -/
  | succeeded
  | notRequested
  deriving DecidableEq

/-- Erases page 0 if the signal asks for it. -/
def Flash.recover (f : Flash) (signal : Signal) (config : Config) : Run Recovery := do
  Drive.log .recoveryOffered
  if ← signal.sample then
    Drive.log .recoveryRequested
    Run.logError (f.erasePage0 config) .recoveryFailed
    Drive.log .recoveryDone
    return .succeeded
  else
    return .notRequested

end FlashBoot
