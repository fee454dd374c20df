import CivicSite.Network

/-!
# Turns

A turn is what passes between the editor's window and the outside while one action of the user
is worked on: the replies that the user will give and the answers of the network, both used up
in order, and everything that the user was shown and the network was asked.
-/

namespace CivicSite

/-- What the user is shown: a box to dismiss, a box to reply to, or a screen brought up to
date in the middle of an action. -/
inductive Notice where
  | warning (title text : Text)
  | information (title text : Text)
  | question (title text : Text)
  | input (title label : Text) (initial : Json)
  | directory (title : Text)
  | repaint

/-- A request, with the publish button as it looked when the request was sent. -/
structure Sent where
  request : Request
  caption : Text
  enabled : Bool

/-- A message in the status line, and for how many milliseconds it stays. -/
structure Status where
  text : Text
  duration : Nat
deriving DecidableEq, Repr

/-- The replies and answers to come, and what was shown and sent so far, oldest first. -/
structure Turn where
  replies : List Text
  network : Network
  notices : List Notice
  sent : List Sent
  messages : List Status

namespace Turn

/-- The turn in which nothing has happened yet. -/
def start (replies : List Text) (network : Network) : Turn :=
  ⟨replies, network, [], [], []⟩

def notify (n : Notice) (t : Turn) : Turn :=
  { t with notices := t.notices ++ [n] }

/-- Shows a notice and takes the next reply; there is none if the user gives up. -/
def ask (n : Notice) (t : Turn) : Option Text × Turn :=
  (t.replies.head?, { t.notify n with replies := t.replies.tail })

/-- Puts a message in the status line. -/
def report (text : Text) (duration : Nat) (t : Turn) : Turn :=
  { t with messages := t.messages ++ [⟨text, duration⟩] }

/-- Lets an operation use the network, while the publish button looks as given. -/
def exchange {α : Type} (caption : Text) (enabled : Bool) (op : Network → α × Network)
    (t : Turn) : α × Turn :=
  let (a, n) := op { t.network with sent := [] }
  (a, { t with network := n, sent := t.sent ++ n.sent.reverse.map (⟨·, caption, enabled⟩) })

end Turn

end CivicSite
