import CredentialIssuance.Messages
import CredentialIssuance.Effects
import CredentialIssuance.Issuer.State
import CredentialIssuance.Issuer.Preview
import CredentialIssuance.Issuer.HandleMessage
import CredentialIssuance.Issuer.Table
import CredentialIssuance.Issuer.Sends
import CredentialIssuance.Issuer.Selector
import CredentialIssuance.Issuer.Run
import CredentialIssuance.Holder
import CredentialIssuance.Issuer.Session
import CredentialIssuance.Issuer.Protocol
