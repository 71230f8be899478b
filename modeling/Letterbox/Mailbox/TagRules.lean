import Letterbox.Config.Basic
import Letterbox.Pattern.Matcher
import Letterbox.Pattern.Reader

namespace Letterbox

structure TagRules where
  rules : List (Pattern.Expr × List String)
  deriving Repr

namespace TagRules

def ruleFlags : Pattern.Flags :=
  { ignoreCase := true, multiLine := true }

def compile : List TagRule → Except String (List (Pattern.Expr × List String))
  | [] => .ok []
  | r :: rest =>
    match Pattern.Expr.read? ruleFlags r.pattern.toList with
    | none => .error r.pattern
    | some e => (compile rest).map ((e, r.tags) :: ·)

def ofConfig? (rules : List TagRule) : Except String TagRules :=
  (compile rules).map TagRules.mk

def size (t : TagRules) : Nat :=
  t.rules.length

def matching (t : TagRules) (raw : Bytes) : List String :=
  let subject := Pattern.Subject.ofBytes raw
  (t.rules.filter fun r => r.1.isFound subject).flatMap fun r => r.2

end TagRules

end Letterbox
