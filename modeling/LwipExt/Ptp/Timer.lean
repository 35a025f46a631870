import LwipExt.Ptp.Arith

/-!
The timers of the daemon (`dep/ptpTimer.c`). A timer made with `osTimerOnce` fires once
after each start; `timerCallback` then sets its flag.
-/

namespace LwipExt.Ptp

/-- A change of one timer. -/
def PtpClock.setTimer (c : PtpClock) (index : PtpTimer) (timer : Timer) : PtpClock :=
  { c with timers := fun i => if i = index then timer else c.timers i }

/-- A timer fires, if it is running: `timerCallback`. -/
def timerCallback (c : PtpClock) (index : PtpTimer) : PtpClock :=
  if (c.timers index).running then
    c.setTimer index { expired := true, interval := (c.timers index).interval }
  else c

/-- `initTimer`. -/
def initTimer (c : PtpClock) : PtpClock := { c with timers := fun _ => {} }

/-- `timerStop`. -/
def timerStop (c : PtpClock) (index : PtpTimer) : PtpClock :=
  c.setTimer index { interval := (c.timers index).interval }

/-- `timerStart`. -/
def timerStart (c : PtpClock) (index : PtpTimer) (interval : UInt32) : PtpClock :=
  c.setTimer index { running := true, interval := interval }

/-- The flag of a timer is cleared. -/
def Timer.clear (t : Timer) : Timer :=
  { running := t.running, interval := t.interval }

/-- `timerExpired`, for a timer that may fire just before it is asked for. -/
def timerExpired (c : PtpClock) (index : PtpTimer) : Bool × PtpClock :=
  let c := if c.input.fires index then timerCallback c index else c
  ((c.timers index).expired,
    if (c.timers index).expired then c.setTimer index (c.timers index).clear else c)

end LwipExt.Ptp
