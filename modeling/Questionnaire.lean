import Questionnaire.CommandLine.Run
import Questionnaire.CommandLine.Tour
import Questionnaire.Compilation
import Questionnaire.Documents
import Questionnaire.Main
import Questionnaire.Registry.Standard
import Questionnaire.Proofs.Defaults
import Questionnaire.Sample
import Questionnaire.Survey
import Questionnaire.Validation
import Questionnaire.Visibility
import Questionnaire.Proofs.Provenance
import Questionnaire.Proofs.StandardCells
import Questionnaire.Proofs.Agreement
import Questionnaire.Proofs.Exactness
import Questionnaire.Proofs.ConditionText
import Questionnaire.Proofs.ConditionGrammar
import Questionnaire.Proofs.Steps
import Questionnaire.Proofs.Lawful
import Questionnaire.Proofs.Verdict
import Questionnaire.Proofs.FailFast
import Questionnaire.Proofs.Probes
import Questionnaire.Proofs.OrderIndependence
import Questionnaire.Proofs.AgeOnly
import Questionnaire.Proofs.Unanswered
import Questionnaire.Proofs.Shape
import Questionnaire.Proofs.Selections
import Questionnaire.Proofs.Required
import Questionnaire.Proofs.RegistryPlaces
import Questionnaire.Proofs.RegistryParts
import Questionnaire.Proofs.QuestionDocuments
import Questionnaire.Proofs.HiddenAnswers
import Questionnaire.Proofs.ExcludedAnswers
import Questionnaire.Proofs.ErrorCauses
import Questionnaire.Proofs.FailedAnswers
import Questionnaire.Proofs.ConditionFailures
import Questionnaire.Proofs.StrictConditions
import Questionnaire.Proofs.ValidationReports
import Questionnaire.Proofs.CheckboxExpansion
import Questionnaire.Proofs.BirthYears
import Questionnaire.Proofs.RegistryRefusals
import Questionnaire.Proofs.QuestionRefusals
import Questionnaire.Proofs.RepeatedKeys
import Questionnaire.Proofs.AnswerDates
import Questionnaire.Proofs.ChoiceAnswers
import Questionnaire.Proofs.Complements
import Questionnaire.Proofs.ConditionLevels
import Questionnaire.Proofs.PeriodTexts
