import Questionnaire.Survey

/-!
# A sample survey

A small survey about students and housing, the answers of one student, and what is asked of
the engine. One of the answers belongs to a question that is hidden for students.
-/

namespace Questionnaire.Sample

def ask (id title : String) (type : QuestionType) : Question :=
  { id := .text id, title := .text title, type := type }

/-- The question asked under a condition only. -/
def asked (condition : String) (q : Question) : Question :=
  { q with visibility := .condition condition }

/-- The question with choices, given by id and title. -/
def among (choices : List (String × String)) (q : Question) : Question :=
  { q with choices := choices.map fun (id, title) => { id := id, title := .text title } }

def ofStudents : String := "statut-professionnel=etudiant"

def ofTenants : String := "situation-logement=locataire"

def questions : List Question :=
  [ask "date-naissance" "Quelle est votre date de naissance ?" .date,
    among [("etudiant", "Étudiant"), ("actif", "Actif")]
      (ask "statut-professionnel" "Quel est votre statut ?" .radio),
    asked ofStudents (ask "boursier" "Êtes-vous boursier ?" .boolean),
    asked ofStudents (among
      [("stage", "En stage"), ("alternance", "En alternance"),
        ("salarie-hors-alternance", "Salarié"), ("sans-emploi", "Sans emploi")]
      (ask "situation-professionnelle" "Quelle est votre situation professionnelle ?" .radio)),
    asked ofStudents (among
      [("parcoursup-nouvelle-region", "Après Parcoursup"),
        ("master-nouvelle-zone", "Pour un master"), ("pas-de-mobilite", "Non")]
      (ask "etudiant-mobilite" "Changez-vous de région pour vos études ?" .radio)),
    among
      [("locataire", "Locataire"), ("proprietaire", "Propriétaire"), ("heberge", "Hébergé"),
        ("sans-domicile", "Sans domicile")]
      (ask "situation-logement" "Quelle est votre situation de logement ?" .radio),
    asked ofTenants (among
      [("logement-non-meuble", "Non meublé"), ("logement-meuble", "Meublé"),
        ("logement-foyer", "Foyer")]
      (ask "type-logement" "Quel type de logement ?" .radio)),
    { asked ofTenants (ask "loyer-montant-mensuel" "Montant du loyer" .number) with
      min := .int 0 },
    ask "commune-logement" "Commune du logement" .combobox,
    asked "statut-professionnel=actif" (among
      [("salaire", "Salaire"), ("chomage", "Chômage")]
      (ask "type-revenus" "Quels revenus percevez-vous ?" .checkbox))]

def answers : Answers :=
  [("date-naissance", .text "2005-06-12"),
    ("statut-professionnel", .text "etudiant"),
    ("boursier", .bool true),
    ("situation-professionnelle", .text "sans-emploi"),
    ("etudiant-mobilite", .text "parcoursup-nouvelle-region"),
    ("situation-logement", .text "locataire"),
    ("type-logement", .text "logement-meuble"),
    ("loyer-montant-mensuel", .int 450),
    ("commune-logement", .combobox (.text "Rennes") (.text "35238")),
    ("type-revenus", .list [.text "salaire"])]

def probes : List String :=
  ["aide-mobilite-parcoursup", "aide-personnalisee-logement", "locapass"]

def survey : Survey where
  questions := questions
  answers := answers
  probes := probes

end Questionnaire.Sample
