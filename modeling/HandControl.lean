import HandControl.ResumedCalls
import HandControl.ResumeReplyChannel
import HandControl.ExclusiveDelivery
import HandControl.SessionOwnership
import HandControl.LostResumeReply
import HandControl.ConfigLocking
import HandControl.ApprovalPairing
import HandControl.TunnelBytes
import HandControl.AndroidBridge
import HandControl.BridgeShutdown
import HandControl.TunnelReporting
import HandControl.InteractiveClient
import HandControl.SessionProtocol
import HandControl.PromptAttachment
import HandControl.ReplayBuffer
import HandControl.SessionTokens
import HandControl.ConfigVersions
import HandControl.RegistrationMap
import HandControl.RelayPinning
import HandControl.RelayLeaks
import HandControl.RelayReconnect
import HandControl.HostLabels
import HandControl.SessionTable
import HandControl.RegistryHistories
import HandControl.TokenHistories
import HandControl.EnrollmentAtomicity
import HandControl.ClientRevocation
import HandControl.ClientParameters
import HandControl.ShellReconnect
import HandControl.ShellTermination
import HandControl.ScriptWork
import HandControl.IdentifierLookup
import HandControl.TerminalKeys
import HandControl.CommandLists
