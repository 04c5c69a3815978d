import PatternSync.Time.Date

/-!
# Instants

A moment in Universal Time with nanoseconds. Second 60 of a minute exists, so that a leap second
keeps its own name; which minutes have one is not checked.
-/

namespace PatternSync

/-- A moment of a day in Universal Time. -/
structure Instant where
  date : Date
  /-- The minute of the day. -/
  minute : Fin 1440
  second : Fin 61
  nanos : Fin 1000000000
  deriving DecidableEq

namespace Instant

def midnight (date : Date) : Instant where
  date := date
  minute := 0
  second := 0
  nanos := 0

instance : Inhabited Instant := ⟨midnight (Date.newYear 1970)⟩

def addMinutes (t : Instant) (n : Nat) : Instant :=
  let total := t.minute.val + n
  { t with
    date := t.date.addDays (total / 1440)
    minute := ⟨total % 1440, Nat.mod_lt _ (by omega)⟩ }

/-- The moment that a clock set `offset` minutes ahead of Universal Time shows as `shown`. -/
def ofLocal (offset : Int) (shown : Instant) : Instant :=
  let total := (shown.minute.val : Int) - offset
  { shown with
    date := if total < 0 then shown.date.previous
      else if total < 1440 then shown.date
      else shown.date.next
    minute := ⟨(total % 1440).toNat, by omega⟩ }

/-- Whether the moment lies before another one. -/
def isBefore (t u : Instant) : Bool :=
  let fields (t : Instant) : List Int :=
    [t.date.year, t.date.month, t.date.day, t.minute.val, t.second.val, t.nanos.val]
  decide (fields t < fields u)

/-- The same moment without its fraction of a second. -/
def wholeSecond (t : Instant) : Instant :=
  { t with nanos := 0 }

@[simp] theorem wholeSecond_wholeSecond (t : Instant) :
    t.wholeSecond.wholeSecond = t.wholeSecond := rfl

end Instant

end PatternSync
