import PhoneVerification.Locale
import PhoneVerification.Message.Key
import PhoneVerification.Message.Template

/-!
# Message tables

The template of every key in every language.
-/

namespace PhoneVerification.MessageTable

/-- The English templates. -/
def english : MessageKey → Template
  | .sendingSms => .plain "SMS message is being sent..."
  | .smsSent => .plain "SMS message has been sent."
  | .smsSentFrom =>
    .gapped "Code has been sent! You will receive a message from number " .number "."
  | .verifyingToken => .plain "Code is being verified..."
  | .issuingCredential => .plain "Attribute is being issued..."
  | .buttonPhone => .plain "Add"
  | .buttonConfirm => .plain "Confirm"
  | .buttonToken => .plain "Verify"
  | .second => .gapped "" .count " second"
  | .seconds => .gapped "" .count " seconds"
  | .minute => .gapped "" .count " minute"
  | .minutes => .gapped "" .count " minutes"
  | .hour => .gapped "" .count " hour"
  | .hours => .gapped "" .count " hours"
  | .retryLater => .plain "a moment"
  | .phoneAddSuccess => .plain "Phone number attribute has been added."
  | .phoneAddTimeout => .plain "The session timed out. Please reload this page and try again."
  | .phoneAddCancel => .plain "Cancelled."
  | .phoneAddError => .plain "Adding the phone number attribute failed, unfortunately."
  | .errorPhoneNumberFormat =>
    .plain "You did not enter a valid telephone number. Please check whether the telephone number is correct."
  | .errorInternal => .plain "Internal error. Please contact Yivi if this happens more often."
  | .errorSendingSms =>
    .plain "Sending the SMS message fails. Most likely this is a problem in the Yivi system. Please contact Yivi if this happens more often."
  | .errorRatelimit => .gapped "Please try again in " .time "."
  | .errorCannotValidateToken => .plain "The code cannot be verified. Is there a typo?"
  | .errorAddressMalformed =>
    .plain "The telephone number you entered is not supported by us. You can only add (European) mobile telephone numbers."

/-- The Dutch templates. -/
def dutch : MessageKey → Template
  | .sendingSms => .plain "SMS-bericht wordt verstuurd..."
  | .smsSent => .plain "SMS-bericht is verstuurd."
  | .smsSentFrom => .gapped "Code is verstuurd! U krijgt een bericht van nummer " .number "."
  | .verifyingToken => .plain "Code wordt geverifieerd..."
  | .issuingCredential => .plain "Attribuut uitgeven..."
  | .buttonPhone => .plain "Voeg toe"
  | .buttonConfirm => .plain "Bevestig"
  | .buttonToken => .plain "Verifieer"
  | .second => .gapped "" .count " seconde"
  | .seconds => .gapped "" .count " seconden"
  | .minute => .gapped "" .count " minuut"
  | .minutes => .gapped "" .count " minuten"
  | .hour => .gapped "" .count " uur"
  | .hours => .gapped "" .count " uur"
  | .retryLater => .plain "een moment"
  | .phoneAddSuccess => .plain "Telefoonnummer toegevoegd."
  | .phoneAddTimeout =>
    .plain "De sessie is verlopen. Herlaad de pagina om het opnieuw te proberen."
  | .phoneAddCancel => .plain "Geannuleerd."
  | .phoneAddError =>
    .plain "Het is helaas niet gelukt dit telefoonnummer toe te voegen aan de Yivi-app."
  | .errorPhoneNumberFormat =>
    .plain "Je hebt geen geldig telefoonnummer ingevoerd. Controleer of het ingevoerde telefoonnummer klopt."
  | .errorInternal => .plain "Interne fout. Neem contact op met Yivi als dit vaker voorkomt."
  | .errorSendingSms =>
    .plain "De SMS kan niet worden verzonden. Dit is waarschijnlijk een probleem in Yivi. Neem contact op met Yivi als dit vaker voorkomt."
  | .errorRatelimit => .gapped "Probeer het opnieuw over " .time "."
  | .errorCannotValidateToken =>
    .plain "De code kon niet worden geverifieerd. Zit er geen typfout in?"
  | .errorAddressMalformed =>
    .plain "Het ingevoerde telefoonnummer wordt niet ondersteund. Je kan alleen mobiele telefoonnummers toevoegen."

/-- The template of a key in a language. -/
def template : Locale → MessageKey → Template
  | .en => english
  | .nl => dutch

end PhoneVerification.MessageTable
