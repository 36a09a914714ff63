import Countinghouse.Period.Error

/-! # The calendar

The periods of a tenant cover a stretch of days without gap and without overlap:
a new period starts the day after the last one ends, or ends the day before the
first one starts. -/

set_option autoImplicit false

namespace Countinghouse.Period

def firstStart? (periods : List Period) : Option Date :=
  periods.foldl (fun least p =>
    match least with
    | none => some p.start
    | some date => if p.start < date then some p.start else some date) none

def lastFinish? (periods : List Period) : Option Date :=
  periods.foldl (fun greatest p =>
    match greatest with
    | none => some p.finish
    | some date => if date ≤ p.finish then some p.finish else some date) none

def checkNew (start finish : Date) (existing : List Period) : Except PeriodError Unit :=
  if finish < start then .error (.invalidDateRange start finish)
  else
    match existing.find? fun p => decide (p.Overlaps start finish) with
    | some clash => .error (.overlaps clash.id)
    | none =>
        match firstStart? existing, lastFinish? existing with
        | some firstStart, some lastFinish =>
            match lastFinish.next?, firstStart.previous? with
            | some expectedStart, some expectedFinish =>
                if start = expectedStart ∨ finish = expectedFinish then .ok ()
                else .error (.notContiguous expectedStart expectedFinish)
            | _, _ => .error (.invalidDateRange start finish)
        | _, _ => .ok ()

def forDate (periods : List Period) (date : Date) : Except PeriodError Period :=
  match find? periods date with
  | some p => .ok p
  | none => .error (.noPeriodForDate date)

end Countinghouse.Period
