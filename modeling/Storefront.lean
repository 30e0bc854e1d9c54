import Storefront.Catalog
import Storefront.Channel
import Storefront.Checkout
import Storefront.Checkout.BasePrice
import Storefront.Checkout.Completion
import Storefront.Checkout.Line
import Storefront.Checkout.OrderPlan
import Storefront.Checkout.Price
import Storefront.Checkout.Snapshot
import Storefront.Checkout.Validation
import Storefront.Checkout.VoucherDiscount
import Storefront.Currency
import Storefront.Decimal
import Storefront.Decimal.Binary64
import Storefront.Decimal.Pow10
import Storefront.Decimal.Text
import Storefront.Delivery
import Storefront.Discount
import Storefront.Discount.Sale
import Storefront.Discount.Voucher
import Storefront.Discount.VoucherUse
import Storefront.Error
import Storefront.GiftCard
import Storefront.GiftCard.Charge
import Storefront.Id
import Storefront.Money
import Storefront.Money.Arithmetic
import Storefront.Order
import Storefront.Order.Charge
import Storefront.Order.Prices
import Storefront.Order.SearchText
import Storefront.Payment
import Storefront.Quantity
import Storefront.RedirectUrl
import Storefront.Settings
import Storefront.Settings.Reader
import Storefront.Stock
import Storefront.Stock.Allocation
import Storefront.Stock.Availability
import Storefront.Store
import Storefront.Store.Transaction
import Storefront.Tax
import Storefront.Tax.FlatRate
import Storefront.Taxed
import Storefront.Text.CharTable
import Storefront.Text.Composition
import Storefront.Text.Direction
import Storefront.Text.Joining
import Storefront.Text.LetterCase
import Storefront.Text.Lowercase
import Storefront.Text.Named
import Storefront.Time
import Storefront.Url
import Storefront.Url.DomainLabel
import Storefront.Url.Host
import Storefront.Url.HostChar
import Storefront.Url.Punycode
import Storefront.User
import Storefront.Yaml.Cursor
import Storefront.Yaml.Document
import Storefront.Yaml.Node
import Storefront.Yaml.Scalar
import Storefront.Yaml.Token
import Storefront.Yaml.Token.Lexer
import Storefront.Proofs.Decimal.Order
import Storefront.Proofs.Money.Order
import Storefront.Proofs.Money.Sum
import Storefront.Proofs.Store.Rows
import Storefront.Proofs.Store.Run
import Storefront.Proofs.Voucher.Use
import Storefront.Proofs.GiftCard.Draining
import Storefront.Proofs.Completion.Preparing
import Storefront.Proofs.Stock.Serving
import Storefront.Proofs.Stock.Supply
import Storefront.Proofs.Stock.Lines
import Storefront.Proofs.Stock.RunOut
import Storefront.Proofs.Stock.Greedy
import Storefront.Proofs.Completion.Creation
import Storefront.Proofs.Completion.Lines
import Storefront.Proofs.Completion.Payments
import Storefront.Proofs.Completion.Step
import Storefront.Proofs.Completion.NoTrace
import Storefront.Proofs.Shop.Schedule
import Storefront.Proofs.Shop.Stock
import Storefront.Proofs.Shop.Orders
import Storefront.Proofs.Shop.VoucherUses
import Storefront.Proofs.Completion.Purchase
import Storefront.Proofs.Shop.Payments
import Storefront.Proofs.GiftCard.Worth
import Storefront.Proofs.GiftCard.Waterfall
import Storefront.Proofs.Shop.GiftCards
import Storefront.Proofs.Checkout.Untaxed
import Storefront.Proofs.Completion.Vouchers
import Storefront.Proofs.Completion.Total
import Storefront.Proofs.Completion.Announcements
import Storefront.Proofs.Shop.OncePerCustomer
import Storefront.Proofs.Voucher.Conditions
import Storefront.Proofs.Stock.Preorders
import Storefront.Proofs.Shop.Preorders
import Storefront.Proofs.Completion.Charge
import Storefront.Proofs.Shop.Ledger
import Storefront.Proofs.Shop.Charges
import Storefront.Proofs.Shop.Customers
import Storefront.Proofs.Checkout.OrderLines
import Storefront.Proofs.Tax.Chain
import Storefront.Proofs.Checkout.KeptDiscount
import Storefront.Proofs.Checkout.LostVoucher
import Storefront.Proofs.Checkout.Reading
import Storefront.Proofs.Checkout.OrderDiscount
import Storefront.Proofs.Checkout.PickUp
import Storefront.Proofs.Checkout.Nonneg
import Storefront.Proofs.Money.Whole
import Storefront.Proofs.Checkout.ItemPrices
import Storefront.Proofs.Checkout.DiscountBound
import Storefront.Proofs.Money.Part
import Storefront.Proofs.Checkout.PriceOrder
import Storefront.Proofs.Tax.Rounding
import Storefront.Proofs.Checkout.Undiscounted
import Storefront.Proofs.Tax.ZeroRate
import Storefront.Proofs.Order.Repricing
import Storefront.Proofs.Completion.Recalculation
import Storefront.Proofs.Tax.Flat
import Storefront.Proofs.Completion.Undiscounted
import Storefront.Proofs.Money.Lowest
import Storefront.Proofs.Sale.Best
import Storefront.Proofs.Checkout.Attachment
import Storefront.Proofs.Checkout.ShippingVoucher
import Storefront.Proofs.Checkout.GivenDiscount
import Storefront.Proofs.Tax.Settled
import Storefront.Proofs.Tax.Precision
import Storefront.Proofs.Tax.RoundTrip
import Storefront.Proofs.Tax.Together
import Storefront.Proofs.Checkout.ShownTotal
import Storefront.Proofs.Checkout.Serviceable
import Storefront.Proofs.Order.Captured
import Storefront.Proofs.Order.Steps
import Storefront.Proofs.Order.Interruption
import Storefront.Proofs.Checkout.Cart
