import TgCli.Audit.Automaton
import TgCli.Audit.Writer
import TgCli.ChatList.Chain
import TgCli.Common.Sha256
import TgCli.Config.Frame
import TgCli.Forward.Terminal
import TgCli.Ingress.GapFree
import TgCli.Proto.Admission
import TgCli.Ingress.Poll
import TgCli.Proto.FrameReader
import TgCli.Removal.Roots
import TgCli.Resolver.Targets
import TgCli.Session.Challenge
import TgCli.Store.Disk
import TgCli.Store.Reservation
import TgCli.Store.SpoolSupport
import TgCli.Stream.Charges
import TgCli.Stream.Fold
import TgCli.Tdlib.RetryAfter
import TgCli.Tdlib.Utf8
