import Questionnaire.Registry.Basic

/-!
# The standard registry

The mappings of the survey. Answers that serve the survey alone are excluded.
-/

namespace Questionnaire.Registry.Standard

def direct (key name : String) (period : PeriodType) : Value × Option Mapping :=
  (.text key, some (.direct (.text name) period))

def dispatched (key : String) (dispatcher : Dispatcher) (period : PeriodType) :
    Value × Option Mapping :=
  (.text key, some (.dispatch dispatcher period))

def excluded (key : String) : Value × Option Mapping := (.text key, some .excluded)

def individualAnswers : MappingTable :=
  [direct "date-naissance" "date_naissance" .eternity,
    direct "age" "age" .month,
    direct "nationalite" "nationalite" .month,
    direct "boursier" "boursier" .month,
    direct "handicap" "handicap" .month,
    direct "statut-professionnel" "activite" .month,
    dispatched "situation-professionnelle" .professionalSituation .month,
    dispatched "etudiant-mobilite" .studentMobility .month,
    direct "annee-etude" "annee_etude" .month,
    direct "scolarite" "scolarite" .month,
    direct "salaire-net-mensuel" "salaire_net" .month,
    direct "chomage-net-mensuel" "chomage_net" .month,
    excluded "type-revenus",
    excluded "aides-deja-percues"]

def individualProbes : MappingTable :=
  [direct "aide-mobilite-parcoursup" "aide_mobilite_parcoursup" .month,
    direct "mobilite-master-1" "aide_mobilite_master" .month,
    direct "locapass" "locapass_eligibilite" .month,
    direct "mobili-jeune" "mobilijeune" .month]

def householdAnswers : MappingTable :=
  [dispatched "situation-logement" .housingSituation .month,
    dispatched "type-logement" .housingType .month,
    direct "loyer-montant-mensuel" "loyer" .month,
    direct "loyer-montant-charges" "charges_locatives" .month,
    direct "commune-logement" "depcom" .month,
    direct "colocation" "coloc" .month,
    direct "logement-conventionne" "logement_conventionne" .month,
    excluded "date-demenagement"]

def householdProbes : MappingTable :=
  [direct "garantie-visale" "visale_montant_max" .month]

def taxHouseholdAnswers : MappingTable :=
  [direct "revenu-fiscal-reference" "rfr" .year,
    direct "nombre-parts-fiscales" "nbptr" .year]

def taxHouseholdProbes : MappingTable :=
  [direct "impot-revenu" "impot_revenu_restant_a_payer" .year]

def familyAnswers : MappingTable :=
  [direct "montant-bourse-lycee" "bourse_lycee" .month,
    excluded "en-couple"]

def familyProbes : MappingTable :=
  [direct "aide-personnalisee-logement" "aide_logement" .month,
    direct "prime-activite" "ppa" .month]

def answers : PerKind MappingTable :=
  ⟨individualAnswers, householdAnswers, taxHouseholdAnswers, familyAnswers⟩

def probes : PerKind MappingTable :=
  ⟨individualProbes, householdProbes, taxHouseholdProbes, familyProbes⟩

end Questionnaire.Registry.Standard

namespace Questionnaire.Registry

/-- The registry of the survey; its parts have no key in common. -/
def standard : Registry where
  tables :=
    { individual := Standard.individualAnswers ++ Standard.individualProbes
      household := Standard.householdAnswers ++ Standard.householdProbes
      taxHousehold := Standard.taxHouseholdAnswers ++ Standard.taxHouseholdProbes
      family := Standard.familyAnswers ++ Standard.familyProbes }

end Questionnaire.Registry
