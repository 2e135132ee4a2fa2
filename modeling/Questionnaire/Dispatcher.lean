import Questionnaire.Period
import Questionnaire.Table

/-!
# Dispatchers

Some answers do not stand for one variable: each value they may have sets variables of its
own. A dispatcher turns such an answer into values of variables, or fails.
-/

namespace Questionnaire

/-- Values of variables by period. -/
abbrev Expansion : Type := Table Value (Table String Value)

/-- A named rule from an answer, given with its key, and a period to values of variables. -/
structure Dispatcher where
  name : String
  run : String → Value → PeriodType → Periods → Except Failure Expansion

namespace Dispatcher

/-- The dispatcher that knows the given answers, each with the variables it sets. -/
def ofCases (name : String) (cases : List (String × List (String × Value))) :
    Dispatcher where
  name := name
  run := fun answerKey answer type periods => do
    let period ← periods.resolve type
    match cases.find? fun entry => answer == .text entry.1 with
    | some (_, settings) =>
      return settings.map fun (name, value) => (.text name, [(period, value)])
    | none => .error (.unexpectedValue answerKey answer)

/-- Interns and apprentices. Other students keep the activity given by another question. -/
def professionalSituation : Dispatcher :=
  ofCases "situation_professionnelle"
    [("stage", [("stagiaire", .bool true), ("alternant", .bool false)]),
      ("alternance", [("alternant", .bool true), ("stagiaire", .bool false)]),
      ("salarie-hors-alternance", []),
      ("sans-emploi", [])]

/-- How someone is housed; the kind of a rented home is asked for by another question. -/
def housingSituation : Dispatcher :=
  ofCases "situation_logement"
    [("locataire", [("statut_occupation_logement", .text "locataire_vide")]),
      ("proprietaire", [("statut_occupation_logement", .text "proprietaire")]),
      ("heberge", [("statut_occupation_logement", .text "loge_gratuitement")]),
      ("sans-domicile", [("statut_occupation_logement", .text "sans_domicile")])]

def housingType : Dispatcher :=
  ofCases "type_logement"
    [("logement-non-meuble", [("statut_occupation_logement", .text "locataire_vide")]),
      ("logement-meuble", [("statut_occupation_logement", .text "locataire_meuble")]),
      ("logement-foyer", [("statut_occupation_logement", .text "locataire_foyer")])]

/-- Whether a student moves to another region. -/
def studentMobility : Dispatcher :=
  ofCases "etudiant_mobilite"
    [("parcoursup-nouvelle-region", [("sortie_academie", .bool true)]),
      ("master-nouvelle-zone", [("sortie_region_academique", .bool true)]),
      ("pas-de-mobilite", [("sortie_region_academique", .bool false)])]

/-- The dispatchers that a registry can name. -/
def standard : List Dispatcher :=
  [professionalSituation, housingSituation, housingType, studentMobility]

end Dispatcher

end Questionnaire
