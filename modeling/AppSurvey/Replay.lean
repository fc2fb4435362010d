/-!
# Replies prepared in advance

A list of replies can stand for a partner. Some replies are tied to calls and stay; the others are
used once, in their order. The first reply that fits is taken.
-/

namespace AppSurvey

/-- A reply, with the calls it is tied to, if any. -/
structure Reply (C R : Type) where
  tiedTo : Option (C → Bool) := none
  content : R

namespace Reply

variable {C R : Type}

/-- The first reply that fits a call, and the replies that are left after it. -/
def take? (call : C) : List (Reply C R) → Option (R × List (Reply C R))
  | [] => none
  | reply :: rest =>
      match reply.tiedTo with
      | none => some (reply.content, rest)
      | some fits =>
          if fits call then some (reply.content, reply :: rest)
          else (take? call rest).map fun (found, left) => (found, reply :: left)

/-- The replies that are left after calls, latest first. -/
def leftAfter (replies : List (Reply C R)) : List C → List (Reply C R)
  | [] => replies
  | call :: before =>
      let left := leftAfter replies before
      ((take? call left).map Prod.snd).getD left

/-- The reply to a call after other calls, latest first, of which only some were answered from the same
replies. Nothing is used up where every reply is tied. -/
def answer? (replies : List (Reply C R)) (sameSource : C → Bool) (before : List C) (call : C) :
    Option R :=
  let left :=
    if replies.all fun reply => reply.tiedTo.isSome then replies
    else leftAfter replies (before.filter sameSource)
  (take? call left).map Prod.fst

end Reply

end AppSurvey
