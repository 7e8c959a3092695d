import PocketCalc.Error
import PocketCalc.Log.Basic
import PocketCalc.Number.Written

/-!
# The error log

* `ErrorRecord`             a reported error;
* `ErrorLog`                a bounded log of them;
* `ErrorLog.report`         one more report;
* `ErrorLog.reportFailure`  one more report, of whatever a program failed with;
* `ErrorLog.tally`          kinds counted one after the other;
* `ErrorLog.statistics`     the kinds in the log with their counts;
* `ErrorLog.mostCommon`     the kind reported most often, the first reported one of several.
-/

namespace PocketCalc

/-- a reported error -/
structure ErrorRecord where
  kind : ErrorKind
  message : Text
  detail : Option Text
deriving DecidableEq, Repr

/-- what a program can fail with: an error of a kind, or anything else, of which a text is known -/
inductive Failure
  | known (kind : ErrorKind) (detail : Option Text)
  | other (t : Text)
deriving DecidableEq, Repr

/-- the reported errors, oldest first -/
abbrev ErrorLog := Log ErrorRecord

namespace ErrorLog

def defaultCapacity : Nat := 50

def initial : ErrorLog := Log.empty defaultCapacity (by decide)

def summary (l : ErrorLog) : Text :=
  "<ErrorLog ".toList ++ natText l.size ++ '/' :: natText l.capacity ++ ['>']

/-- the log with an error reported, under the message of its kind unless another one is given -/
def report (l : ErrorLog) (kind : ErrorKind) (message detail : Option Text) : ErrorLog :=
  l.push ⟨kind, message.getD kind.message.toList, detail⟩

/-- the log with a failure reported; what is no error of a kind is an unknown one -/
def reportFailure (l : ErrorLog) : Failure → ErrorLog
  | .known kind detail => l.report kind none detail
  | .other t => l.report .unknown none (some t)

def kinds (l : ErrorLog) : List ErrorKind := l.entries.map ErrorRecord.kind

/-- one more of a kind; one that was not counted yet goes behind the others -/
def countOne (counts : List (ErrorKind × Nat)) (k : ErrorKind) : List (ErrorKind × Nat) :=
  match counts with
  | [] => [(k, 1)]
  | (j, n) :: rest => if j = k then (j, n + 1) :: rest else (j, n) :: countOne rest k

/-- some kinds with the numbers of their occurrences, as they first appear -/
def tally (ks : List ErrorKind) : List (ErrorKind × Nat) := ks.foldl countOne []

/-- the kinds in the log with the numbers of their reports, the most frequent first and those of
equal number as they first appear in the log -/
def statistics (l : ErrorLog) : List (ErrorKind × Nat) :=
  (tally l.kinds).mergeSort fun a b => b.2 ≤ a.2

/-- the kind reported most often -/
def mostCommon (l : ErrorLog) : Option ErrorKind := l.statistics.head?.map Prod.fst

end ErrorLog
end PocketCalc
