import Switchboard.Calendar.Instant

/-! Messages of a conversation. A post becomes a message when the log stamps it with the time. -/
namespace Switchboard

inductive Sender
  | bot | user | agent | system
deriving DecidableEq, Repr, Inhabited

def Sender.name : Sender → String
  | .bot => "bot" | .user => "user" | .agent => "agent" | .system => "system"

structure Button where
  id : String
  label : String
deriving DecidableEq, Repr

structure Post where
  sender : Sender
  text : String
  buttons : Option (List Button)
deriving DecidableEq, Repr

structure Message where
  sender : Sender
  text : String
  buttons : Option (List Button)
  timestamp : Instant
deriving DecidableEq, Repr

namespace Post

def bot (text : String) : Post := ⟨.bot, text, none⟩
def user (text : String) : Post := ⟨.user, text, none⟩
def agent (text : String) : Post := ⟨.agent, text, none⟩
def system (text : String) : Post := ⟨.system, text, none⟩

/-- A bot message that offers buttons; offering none is no offer. -/
def offer (text : String) (buttons : List Button) : Post :=
  ⟨.bot, text, if buttons.isEmpty then none else some buttons⟩

def stamp (post : Post) (now : Instant) : Message :=
  ⟨post.sender, post.text, post.buttons, now⟩

end Post

@[simp] theorem Post.stamp_sender (post : Post) (now : Instant) :
    (post.stamp now).sender = post.sender := rfl

@[simp] theorem Post.stamp_timestamp (post : Post) (now : Instant) :
    (post.stamp now).timestamp = now := rfl

end Switchboard
