import PushNotice.Json.Basic

/-!
# PushNotice.Template.Basic

**Templates of notices.** A template has the text of the message, the embed that every commit
gets, and extra embeds that a notice gets once. The two built-in templates are named here.
-/

namespace PushNotice

/-- A template of a notice. -/
structure Template where
  message : String
  embed : Json
  extras : List Json
deriving Inhabited

namespace Template

/-- The name of the template that is used when none, or one that is not there, is asked for. -/
def defaultName : String := "plain"

/-- The name of the other built-in template. -/
def detailedName : String := "detailed"

/-- Title, description and author of each commit, and a link to the whole comparison. -/
def plain : Template where
  message :=
    "Successful commit to **\x7b\x7b github.context.payload.repository.owner.name \x7d\x7d/" ++
      "\x7b\x7b github.context.payload.repository.name \x7d\x7d**"
  embed := .object [
    ("title", .string "\x7b\x7b commit.title \x7d\x7d"),
    ("description", .string "\x7b\x7b commit.description \x7d\x7d"),
    ("author", .object [("name", .string "\x7b\x7b commit.author.name \x7d\x7d")])]
  extras := [.object [
    ("title", .string "View All Changes"),
    ("url", .string "\x7b\x7b github.context.payload.compare \x7d\x7d")]]

/-- Each commit with a link to it, its short id and its time. -/
def detailed : Template where
  message :=
    "**\x7b\x7b github.context.payload.pusher.name \x7d\x7d** pushed to " ++
      "`\x7b\x7b github.context.payload.ref \x7d\x7d` in " ++
      "**\x7b\x7b github.context.payload.repository.full_name \x7d\x7d**"
  embed := .object [
    ("title", .string "\x7b\x7b commit.title \x7d\x7d"),
    ("url", .string "\x7b\x7b commit.url \x7d\x7d"),
    ("description", .string "\x7b\x7b commit.description \x7d\x7d"),
    ("color", .ofNat 5814783),
    ("author", .object [("name", .string "\x7b\x7b commit.author.name \x7d\x7d")]),
    ("footer", .object [("text", .string "\x7b\x7b commit.short_id \x7d\x7d")]),
    ("timestamp", .string "\x7b\x7b commit.timestamp \x7d\x7d")]
  extras := [.object [
    ("title", .string ("Compare \x7b\x7b github.context.payload.before \x7d\x7d..." ++
      "\x7b\x7b github.context.payload.after \x7d\x7d")),
    ("url", .string "\x7b\x7b github.context.payload.compare \x7d\x7d")]]

end Template

end PushNotice
