import PageRouter.Signal
import PageRouter.Reaction

/-!
# A board of named listeners

A board puts one signal of whole numbers into the hands of its listeners.  Commands add and remove
listeners by name and make the signal tell a value; a listener writes down what it is told and then
reacts with commands of its own, to any depth.

Every command that a listener gives uses up a run of one of its reactions, and a reaction has
finitely many.  The depth to which commands can nest is therefore bounded by their weight, and
`Board.carryOut` grants that much.
-/

namespace PageRouter

open Text

/-- What can be asked of a board. -/
inductive BoardCommand where
  /-- Add a listener under a name. -/
  | subscribe (name : Text) (reactions : List (Reaction (Option Int) BoardCommand))
  | emit (value : Int)
  | count
  /-- Take the listener of a name away. -/
  | cancel (name : Text)
  | describe
  /-- Describe the subscription of a name. -/
  | describeSubscription (name : Text)
  | letGo

/-! ## Weights -/

mutual

/-- How many commands a command can lead to, itself included. -/
def BoardCommand.weight : BoardCommand → Nat
  | .subscribe _ reactions => 1 + BoardCommand.weightOfReactions reactions
  | _ => 1

/-- How many commands reactions can lead to. -/
def BoardCommand.weightOfReactions : List (Reaction (Option Int) BoardCommand) → Nat
  | [] => 0
  | ⟨_, runs, commands⟩ :: rest =>
    runs * (1 + BoardCommand.weightOfCommands commands) + BoardCommand.weightOfReactions rest

/-- How many commands a list of commands can lead to. -/
def BoardCommand.weightOfCommands : List BoardCommand → Nat
  | [] => 0
  | command :: rest => command.weight + BoardCommand.weightOfCommands rest

end

/-! ## Boards -/

inductive BoardAnswer where
  | nothing
  | flag (value : Bool)
  | number (value : Nat)
  | text (value : Text)
  deriving DecidableEq, Repr

structure BoardListener where
  name : Text
  /-- The reactions, with the runs they have left. -/
  reactions : List (Reaction (Option Int) BoardCommand)

inductive BoardEvent where
  /-- A listener was told a value. -/
  | told (name : Text) (value : Int)
  /-- A command of a listener was answered. -/
  | answered (answer : BoardAnswer)
  deriving DecidableEq, Repr

structure Board where
  /-- The signal; it tells of listeners by their place in the list of all. -/
  signal : Signal Nat
  /-- Whether the board still holds the signal. -/
  held : Bool
  listeners : List BoardListener
  /-- The names that have a subscription, with its number. -/
  subscriptions : List (Text × Nat)
  /-- What has happened, the latest first. -/
  events : List BoardEvent

namespace Board

def empty : Board := ⟨.empty, true, [], [], []⟩

/-- Computations on a board that may run out of depth. -/
abbrev BoardM := StateT Board Option

def note (event : BoardEvent) : BoardM Unit :=
  modify fun board => { board with events := event :: board.events }

/-- The number of the subscription of a name. -/
def subscription? (board : Board) (name : Text) : Option Nat :=
  (board.subscriptions.find? (·.1 = name)).map (·.2)

/-- The board without the subscription of a name. -/
def cancelled (board : Board) (name : Text) : Board :=
  match board.subscription? name with
  | none => board
  | some number =>
    { board with
      signal := board.signal.cancel number
      subscriptions := board.subscriptions.filter (·.1 ≠ name) }

/-- The board with a listener under a name, which no other one has from now on. -/
def subscribed (board : Board) (name : Text)
    (reactions : List (Reaction (Option Int) BoardCommand)) : Board :=
  let number := board.signal.nextNumber
  let board := { board with
    signal := board.signal.subscribe board.listeners.length
    listeners := board.listeners ++ [BoardListener.mk name reactions] }
  let board := board.cancelled name
  { board with subscriptions := board.subscriptions ++ [(name, number)] }

def reactionsOf (place : Nat) : BoardM (List (Reaction (Option Int) BoardCommand)) := do
  return match (← get).listeners[place]? with
    | some listener => listener.reactions
    | none => []

/-- One run of a reaction of a listener used up. -/
def useReaction (place index : Nat) : BoardM Unit :=
  modify fun board => { board with
    listeners := board.listeners.modify place fun listener =>
      { listener with reactions := Reaction.useUp index listener.reactions } }

variable (again : BoardCommand → BoardM BoardAnswer)

/-- Carrying out the commands of a reaction, with a note of each answer. -/
def performAll : List BoardCommand → BoardM Unit
  | [] => pure ()
  | command :: rest => do
    note (.answered (← again command))
    performAll rest

def tell (value : Int) (place : Nat) : BoardM Unit := do
  match (← get).listeners[place]? with
  | none => pure ()
  | some listener => do
    note (.told listener.name value)
    Reaction.offer (reactionsOf place) (useReaction place) (Reaction.isDue value)
      (performAll again) (List.range listener.reactions.length)

/-- Carrying out a command, where `again` carries out the commands of listeners. -/
def step (command : BoardCommand) : BoardM BoardAnswer := do
  let board ← get
  match command with
  | .subscribe name reactions =>
    if board.held then set (board.subscribed name reactions)
    return .nothing
  | .emit value =>
    if board.held then Signal.emit (return (← get).signal) (tell again value)
    return .nothing
  | .count => return if board.held then .number board.signal.count else .nothing
  | .cancel name =>
    set (board.cancelled name)
    return .flag (board.subscription? name).isSome
  | .describe =>
    return if board.held then
        .text ("Signal \x7b listeners: ".toList ++ ofNat board.signal.count ++ " \x7d".toList)
      else .nothing
  | .describeSubscription name =>
    return if (board.subscription? name).isSome then
        .text "Subscription \x7b active: true \x7d".toList
      else .nothing
  | .letGo =>
    set { board with held := false }
    return .nothing

/-- Carrying out a command to a given depth. -/
def exec : Nat → BoardCommand → BoardM BoardAnswer
  | 0, _ => failure
  | depth + 1, command => step (exec depth) command

/-- How many commands the listeners of a board can lead to. -/
def weight (board : Board) : Nat :=
  board.listeners.foldr
    (fun listener sum => BoardCommand.weightOfReactions listener.reactions + sum) 0

/-- **Carrying out a command**, as deeply as it takes. -/
def carryOut (board : Board) (command : BoardCommand) : Option (BoardAnswer × Board) :=
  (exec (board.weight + command.weight + 1) command).run board

end Board

end PageRouter
