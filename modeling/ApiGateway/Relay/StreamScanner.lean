import ApiGateway.Lib.Decimal
import ApiGateway.Lib.Runs

/-!
# The pump of a streamed answer

One goroutine scans the lines of the upstream and puts the data in a channel, another calls the
handler with it, and a third may send pings. The main one waits for a token in the stop channel, and
then for the others to end; whoever ends leaves a token, in the same step, and whoever takes one
ends.
-/

namespace ApiGateway

open Decimal

inductive Scanned where
  | skipped
  | data (payload : String)
  | done
deriving DecidableEq

def donePrefix : List Char := "[DONE]".toList

/-- What the scanner makes of a line. -/
def scanLine (line : String) : Scanned :=
  let chars := line.toList
  if chars.length < 6 then .skipped
  else if chars.take 5 ≠ "data:".toList ∧ chars.take 6 ≠ donePrefix then .skipped
  else
    let data := trimSpace (String.ofList (chars.drop 5))
    if data = "" then .skipped
    else if donePrefix.isPrefixOf data.toList then .done
    else .data data

inductive MainPhase where
  | waiting
  | leaving
  | returned
deriving DecidableEq

structure Pump where
  /-- What the scanner has not read yet. -/
  lines : List String
  scanning : Bool := true
  /-- What the scanner is about to put in the channel. -/
  sending : Option String := none
  dataChan : List String := []
  handling : Bool := true
  /-- The calls of the handler. -/
  handled : List String := []
  pinging : Bool := true
  stopChan : Nat := 0
  main : MainPhase := .waiting
deriving DecidableEq

inductive PumpAct where
  | scan
  | send
  /-- The scanner takes a token. -/
  | scanStop
  /-- The scanner finds the context cancelled. -/
  | scanCancel
  /-- The scanner finds the client gone. -/
  | scanGone
  /-- A call of the handler, which may stop the stream. -/
  | handle (stops : Bool)
  /-- The channel is closed and empty. -/
  | handleEnd
  /-- The ping goroutine takes a token. -/
  | pingStop
  | pingEnd
  /-- The main goroutine takes a token. -/
  | mainStop
  /-- The client is gone, or no line came in time. -/
  | mainGone
  | mainReturn
  /-- The others took too long to end. -/
  | mainGiveUp
deriving DecidableEq

/-- A token is left; the channel has room for three. -/
def Pump.signal (p : Pump) : Except Unit Pump :=
  if p.stopChan < 3 then .ok { p with stopChan := p.stopChan + 1 } else .error ()

def Pump.scanEnd (p : Pump) : Except Unit Pump := { p with scanning := false }.signal

/-- A step of one of the goroutines, if it can take it. -/
def Pump.act (a : PumpAct) (p : Pump) : Except Unit Pump :=
  match a with
  | .scan =>
    if p.scanning ∧ p.sending = none then
      match p.lines with
      | [] => p.scanEnd
      | line :: lines =>
        match scanLine line with
        | .skipped => .ok { p with lines := lines }
        | .data payload => .ok { p with lines := lines, sending := some payload }
        | .done => p.scanEnd
    else .error ()
  | .send =>
    match p.sending with
    | some payload =>
      if p.scanning ∧ p.dataChan.length < 10 then
        .ok { p with sending := none, dataChan := p.dataChan ++ [payload] }
      else .error ()
    | none => .error ()
  | .scanStop =>
    if p.scanning ∧ 0 < p.stopChan then { p with stopChan := p.stopChan - 1 }.scanEnd else .error ()
  | .scanCancel => if p.scanning ∧ p.main ≠ .waiting then p.scanEnd else .error ()
  | .scanGone => if p.scanning then p.scanEnd else .error ()
  | .handle stops =>
    match p.dataChan with
    | payload :: rest =>
      if p.handling then
        let called := { p with dataChan := rest, handled := p.handled ++ [payload] }
        if stops then { called with handling := false }.signal else .ok called
      else .error ()
    | [] => .error ()
  | .handleEnd =>
    if p.handling ∧ p.dataChan = [] ∧ !p.scanning then { p with handling := false }.signal
    else .error ()
  | .pingStop =>
    if p.pinging ∧ 0 < p.stopChan then
      .ok { p with pinging := false, stopChan := p.stopChan - 1 }
    else .error ()
  | .pingEnd => if p.pinging then .ok { p with pinging := false } else .error ()
  | .mainStop =>
    if p.main = .waiting ∧ 0 < p.stopChan then
      { p with main := .leaving, stopChan := p.stopChan - 1 }.signal
    else .error ()
  | .mainGone => if p.main = .waiting then { p with main := .leaving }.signal else .error ()
  | .mainReturn =>
    if p.main = .leaving ∧ !p.scanning ∧ !p.handling ∧ !p.pinging then
      .ok { p with main := .returned }
    else .error ()
  | .mainGiveUp => if p.main = .leaving then .ok { p with main := .returned } else .error ()

/-- The pump after these steps, with those left out that could not be taken. -/
def pumpRun (lines : List String) (acts : List PumpAct) : Pump := Runs.run Pump.act acts { lines }

end ApiGateway
