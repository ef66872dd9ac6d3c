import Receipts.Catalog.Basic

/-!
# The Beacons template

The order receipt of a Beacons shop: its document as static text and slots, and the
names of the slots in ascending order.
-/

namespace Receipts.Catalog

/-- The document of the Beacons template. -/
def beaconsSegments : List Segment :=
  [
    .text "<!DOCTYPE html>\n",
    .text "<html>\n",
    .text "<head>\n",
    .text "    <meta charset=\"utf-8\">\n",
    .text "    <meta name=\"viewport\" content=\"width=device-width, initial-scale=1.0\">\n",
    .text "    <title>Your receipt from ", .slot "SELLER_NAME", .text "</title>\n",
    .text "    <style>\n",
    .text "        body \x7b font-family: Helvetica, Arial, sans-serif; margin: 0; padding: 0; background-color: #f5f5f7; color: #111; \x7d\n",
    .text "        .wrapper \x7b width: 100%; padding: 32px 0; \x7d\n",
    .text "        .card \x7b max-width: 560px; margin: 0 auto; background: #ffffff; border-radius: 16px; padding: 32px; \x7d\n",
    .text "        .logo \x7b width: 56px; height: 56px; border-radius: 50%; object-fit: cover; \x7d\n",
    .text "        .greeting \x7b font-size: 22px; font-weight: 700; margin: 24px 0 8px; \x7d\n",
    .text "        .muted \x7b color: #6b6b76; font-size: 14px; \x7d\n",
    .text "        .item \x7b width: 100%; border-collapse: collapse; margin: 24px 0; \x7d\n",
    .text "        .item td \x7b padding: 12px 0; border-bottom: 1px solid #ececf0; font-size: 15px; \x7d\n",
    .text "        .item .thumb \x7b width: 64px; height: 64px; border-radius: 8px; object-fit: cover; \x7d\n",
    .text "        .right \x7b text-align: right; \x7d\n",
    .text "        .total td \x7b font-weight: 700; font-size: 17px; border-bottom: none; \x7d\n",
    .text "        .footer \x7b text-align: center; font-size: 12px; color: #9a9aa3; margin-top: 24px; \x7d\n",
    .text "        a \x7b color: #111; \x7d\n",
    .text "    </style>\n",
    .text "</head>\n",
    .text "<body>\n",
    .text "    <div class=\"wrapper\">\n",
    .text "        <div class=\"card\">\n",
    .text "            <img class=\"logo\" src=\"",
      .slot "SELLER_LOGO_URL",
      .text "\" alt=\"",
      .slot "SELLER_NAME",
      .text "\">\n",
    .text "\n",
    .text "            <p class=\"greeting\">Thanks for your order, ",
      .slot "BUYER_NAME",
      .text "!</p>\n",
    .text "            <p class=\"muted\">Here is your receipt from ",
      .slot "SELLER_NAME",
      .text ". Keep it for your records.</p>\n",
    .text "\n",
    .text "            <table class=\"item\" role=\"presentation\">\n",
    .text "                <tr>\n",
    .text "                    <td class=\"muted\">Order</td>\n",
    .text "                    <td class=\"right\">#", .slot "ORDER_ID", .text "</td>\n",
    .text "                </tr>\n",
    .text "                <tr>\n",
    .text "                    <td class=\"muted\">Date paid</td>\n",
    .text "                    <td class=\"right\">", .slot "DATE_PAID", .text "</td>\n",
    .text "                </tr>\n",
    .text "                <tr>\n",
    .text "                    <td class=\"muted\">Payment method</td>\n",
    .text "                    <td class=\"right\">", .slot "PAYMENT_METHOD", .text "</td>\n",
    .text "                </tr>\n",
    .text "            </table>\n",
    .text "\n",
    .text "            <table class=\"item\" role=\"presentation\">\n",
    .text "                <tr>\n",
    .text "                    <td width=\"76\"><img class=\"thumb\" src=\"",
      .slot "PRODUCT_IMAGE_URL",
      .text "\" alt=\"",
      .slot "PRODUCT_NAME",
      .text "\"></td>\n",
    .text "                    <td>", .slot "PRODUCT_NAME", .text "</td>\n",
    .text "                    <td class=\"right\">$", .slot "PRODUCT_PRICE", .text "</td>\n",
    .text "                </tr>\n",
    .text "                <tr class=\"total\">\n",
    .text "                    <td></td>\n",
    .text "                    <td>Total</td>\n",
    .text "                    <td class=\"right\">$", .slot "TOTAL_AMOUNT", .text "</td>\n",
    .text "                </tr>\n",
    .text "            </table>\n",
    .text "\n",
    .text "            <p class=\"muted\">This receipt was sent to ",
      .slot "BUYER_EMAIL",
      .text ".</p>\n",
    .text "            <p class=\"muted\">Questions about your order? Contact <a href=\"mailto:",
      .slot "SELLER_EMAIL",
      .text "\">",
      .slot "SELLER_NAME",
      .text "</a>.</p>\n",
    .text "\n",
    .text "            <div class=\"footer\">\n",
    .text "                <p>Powered by Beacons</p>\n",
    .text "            </div>\n",
    .text "        </div>\n",
    .text "    </div>\n",
    .text "</body>\n",
    .text "</html>\n"]

/-- The Beacons template. -/
def beacons : PlatformTemplate where
  id := "beacons"
  name := "Beacons"
  subject := "Your Beacons receipt"
  segments := beaconsSegments
  placeholders :=
    ["BUYER_EMAIL", "BUYER_NAME", "DATE_PAID", "ORDER_ID", "PAYMENT_METHOD",
     "PRODUCT_IMAGE_URL", "PRODUCT_NAME", "PRODUCT_PRICE", "SELLER_EMAIL", "SELLER_LOGO_URL",
     "SELLER_NAME", "TOTAL_AMOUNT"]

end Receipts.Catalog
