import TenonVpn.VpnNode
import TenonVpn.PacketTunnel
import TenonVpn.TunnelRestart
import TenonVpn.ShadowsocksAdapter
import TenonVpn.Downlink
import TenonVpn.PaidTransactions
import TenonVpn.PendingRecharge
import TenonVpn.VipPeriod
import TenonVpn.ChargeRate
import TenonVpn.StopRequest
import TenonVpn.FreeTimeTimer
import TenonVpn.VipRefill
import TenonVpn.PathObserver
import TenonVpn.BalanceArithmetic
import TenonVpn.KeyHistory
import TenonVpn.PaymentObserver
import TenonVpn.PaymentCompletion
import TenonVpn.VpnChoice
import TenonVpn.RouteFallback
import TenonVpn.RouteAgreement
import TenonVpn.NodeMap
import TenonVpn.DefaultRoute
import TenonVpn.ConnectVpn
import TenonVpn.RetryType
import TenonVpn.KeychainCache
import TenonVpn.Countdown
import TenonVpn.Base64RoundTrip
import TenonVpn.HexCode
import TenonVpn.UDPDirectStack
import TenonVpn.NWTCPSocket
import TenonVpn.TUNTCPSocket
import TenonVpn.ShadowsocksTunnel
import TenonVpn.UInt128Division
