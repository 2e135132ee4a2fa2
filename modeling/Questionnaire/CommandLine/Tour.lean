import Questionnaire.Compilation
import Questionnaire.Documents
import Questionnaire.Survey

/-!
# A tour of a compilation

The steps from answers to a request, told one after the other: the survey, the answers that
stay, the outcome and the request.
-/

namespace Questionnaire.CommandLine

namespace Tour

def rule : String := String.ofList (List.replicate 80 '=')

def point (text : String) : String := "   ✓ " ++ text

def count (what : String) (n : Nat) : String := point (what ++ ": " ++ toString n)

/-- The keys of the answers that do not stay, in increasing order. -/
def dropped (before after : Answers) : List String :=
  ((Table.keys before).filter fun key => !(Table.keys after).contains key).mergeSort
  fun a b => !decide (b < a)

def outcomeLines (o : Outcome) : List String :=
  [point ("Success: " ++ (Value.bool o.success).display)]
    ++ (if o.errors.isEmpty then [] else
      ["", "   Errors (" ++ toString o.errors.length ++ "):"]
        ++ o.errors.map fun e => "      - " ++ e.line)
    ++ (if o.usedFallback then ["   ! Request built by the permissive construction"] else [])

def requestLines : Option Value → Except Failure (List String)
  | none => .ok []
  | some request => do return [← Request.toIndentedJson 2 request]

def lines (survey : Survey) (options : Options) (registry : Registry) (today : Date) :
    Except Failure (List String) := do
  let visible ← survey.visibleAnswers {}
  let o ← compile options registry today visible survey.probes
  let request ← requestLines o.request
  return [rule, "COMPLETE PIPELINE DEMO: Answers → Visibility → Request", rule,
      "", "1. LOADING SURVEY...",
      count "Questions" survey.questions.length, count "Answers" survey.answers.length,
      "", "2. FILTERING HIDDEN ANSWERS...", count "Kept" visible.length,
      point ("Dropped: " ++
        (Value.list ((dropped survey.answers visible).map .text)).inspect),
      "", "3. COMPILING..."]
    ++ outcomeLines o
    ++ ["", "4. CALCULATION REQUEST:"]
    ++ request
    ++ ["", rule, "✓ PIPELINE COMPLETE", rule]

end Tour

end Questionnaire.CommandLine
