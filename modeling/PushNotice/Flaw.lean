/-!
# PushNotice.Flaw

**What is wrong with a text.** Of a text that is not well-formed no more is known than that. Of
one that lacks something or holds something unexpected there is a message.
-/

namespace PushNotice

/-- What is known of a text that could not be read. -/
inductive Flaw where
  /-- The text is not well-formed, or not of the form that is wanted. -/
  | malformed
  /-- The text is well-formed, and this is missing from it or unexpected in it. -/
  | unexpected (message : String)
deriving DecidableEq, Repr

/-- The wording of a flaw, given the account of a malformed text. -/
def Flaw.message (account : String) : Flaw → String
  | .malformed => account
  | .unexpected message => message

/-- The flaw of a text without a member that it needs. -/
def Flaw.missingField (name : String) : Flaw :=
  .unexpected ("missing field `" ++ name ++ "`")

end PushNotice
