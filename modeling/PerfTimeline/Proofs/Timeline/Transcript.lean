import PerfTimeline.Proofs.Timeline.Operation

/-!
# Transcripts

A program not only operates a timeline, it also asks what is stored and how its observers stand. A transcript
puts down each command of a run with the reply to it, so that runs can be compared by what they tell.
-/

namespace PerfTimeline

/-- A question about what is stored, or about an observer. -/
inductive Query where
  | select (t : EntryType) (name : Option String)
  | selectSorted (types : List EntryType) (name : Option String)
  | markTime (name : String)
  | size (t : EntryType)
  | dropped (t : EntryType)
  | counts
  | observer (o : ObserverId)
deriving DecidableEq

inductive Command where
  | operate (op : Operation)
  | ask (q : Query)
deriving DecidableEq

inductive Reply where
  | answer (a : Answer)
  | entries (es : List Entry)
  | time (t : Option TimeStamp)
  | count (n : Nat)
  | counts (cs : EventCounts)
  /-- All there is to know of an observer: its pending records, its status, what it dropped. -/
  | observer (state : Option Observer)
deriving DecidableEq

/-- Whether an observer is made. -/
def Operation.makes : Operation → Bool
  | create .. => true
  | _ => false

namespace Command

def isDirect : Command → Bool
  | operate op => op.isDirect
  | ask _ => false

def makes : Command → Bool
  | operate op => op.makes
  | ask _ => false

def operations : Command → List Operation
  | operate op => [op]
  | ask _ => []

end Command

namespace Timeline

variable {ε : Type}

def reply (tl : Timeline ε) : Query → Reply
  | .select t name => .entries (tl.recorder.select t name)
  | .selectSorted types name => .entries (tl.recorder.selectSorted types name)
  | .markTime name => .time (tl.recorder.markTime? name)
  | .size t => .count (tl.recorder.size t)
  | .dropped t => .count (tl.recorder.dropped t)
  | .counts => .counts tl.recorder.counts
  | .observer o => .observer (tl.observer? o)

def obey (hooks : Hooks ε) (tl : Timeline ε) : Command → Timeline ε × Reply
  | .operate op => let (tl, a) := tl.perform hooks op; (tl, .answer a)
  | .ask q => (tl, tl.reply q)

/-- The timeline after some commands. -/
def proceed (hooks : Hooks ε) (tl : Timeline ε) (cs : List Command) : Timeline ε :=
  cs.foldl (fun tl c => (tl.obey hooks c).1) tl

/-- Some commands, each with the reply to it. -/
def transcript (hooks : Hooks ε) (tl : Timeline ε) : List Command → List (Command × Reply)
  | [] => []
  | c :: cs => (c, (tl.obey hooks c).2) :: transcript hooks (tl.obey hooks c).1 cs

theorem proceed_append (hooks : Hooks ε) (tl : Timeline ε) (a b : List Command) :
    tl.proceed hooks (a ++ b) = (tl.proceed hooks a).proceed hooks b := List.foldl_append

theorem proceed_eq_run (hooks : Hooks ε) (tl : Timeline ε) (cs : List Command) :
    tl.proceed hooks cs = tl.run hooks (cs.flatMap Command.operations) := by
  induction cs generalizing tl with
  | nil => rfl
  | cons c cs ih =>
    rw [List.flatMap_cons, run_append]
    have hone : (tl.obey hooks c).1 = tl.run hooks c.operations := by cases c <;> rfl
    rw [← hone]
    exact ih _

theorem transcript_append (hooks : Hooks ε) (tl : Timeline ε) (a b : List Command) :
    tl.transcript hooks (a ++ b) = tl.transcript hooks a ++ (tl.proceed hooks a).transcript hooks b := by
  induction a generalizing tl with
  | nil => rfl
  | cons c a ih => exact congrArg _ (ih _)

end Timeline

end PerfTimeline
