import TerminalProxy.Relay.Ordering
import TerminalProxy.Relay.Accounting
import TerminalProxy.Server.Connection
import TerminalProxy.PeersFile
