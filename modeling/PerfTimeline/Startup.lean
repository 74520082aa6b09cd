import PerfTimeline.Time

/-!
# Startup milestones

When the application reached each step of its start. The timing table names the times that are known, under
the keys that scripts read.
-/

namespace PerfTimeline

/-- A step of the application's start. -/
inductive Milestone where
  | appStartupStart
  | appStartupEnd
  | initRuntimeStart
  | initRuntimeEnd
  | runBundleStart
  | runBundleEnd
deriving DecidableEq

/-- When each milestone was reached, if it was. -/
structure Startup where
  appStartupStart : Option TimeStamp := none
  appStartupEnd : Option TimeStamp := none
  initRuntimeStart : Option TimeStamp := none
  initRuntimeEnd : Option TimeStamp := none
  runBundleStart : Option TimeStamp := none
  runBundleEnd : Option TimeStamp := none
deriving DecidableEq

namespace Startup

/-- Note a milestone; a later note replaces an earlier one. -/
def log (s : Startup) (m : Milestone) (time : TimeStamp) : Startup :=
  match m with
  | .appStartupStart => { s with appStartupStart := time }
  | .appStartupEnd => { s with appStartupEnd := time }
  | .initRuntimeStart => { s with initRuntimeStart := time }
  | .initRuntimeEnd => { s with initRuntimeEnd := time }
  | .runBundleStart => { s with runBundleStart := time }
  | .runBundleEnd => { s with runBundleEnd := time }

/-- When a milestone was reached. -/
def get? (s : Startup) : Milestone → Option TimeStamp
  | .appStartupStart => s.appStartupStart
  | .appStartupEnd => s.appStartupEnd
  | .initRuntimeStart => s.initRuntimeStart
  | .initRuntimeEnd => s.initRuntimeEnd
  | .runBundleStart => s.runBundleStart
  | .runBundleEnd => s.runBundleEnd

/-- The start of the application, or that of its runtime where the former was never noted. -/
def start? (s : Startup) : Option TimeStamp := s.appStartupStart <|> s.initRuntimeStart

/-- The known times under their keys. -/
def timing (s : Startup) : List (String × TimeStamp) :=
  [("startTime", s.start?),
    ("initializeRuntimeStart", s.initRuntimeStart),
    ("executeJavaScriptBundleEntryPointStart", s.runBundleStart),
    ("executeJavaScriptBundleEntryPointEnd", s.runBundleEnd),
    ("initializeRuntimeEnd", s.initRuntimeEnd),
    ("endTime", s.appStartupEnd)].filterMap fun (key, time) => time.map (key, ·)

theorem get?_log_self (s : Startup) (m : Milestone) (time : TimeStamp) :
    (s.log m time).get? m = some time := by
  cases m <;> rfl

theorem get?_log_of_ne (s : Startup) {m n : Milestone} (time : TimeStamp) (h : n ≠ m) :
    (s.log m time).get? n = s.get? n := by
  cases m <;> cases n <;> first | rfl | exact absurd rfl h

end Startup

end PerfTimeline
