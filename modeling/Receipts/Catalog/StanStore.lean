import Receipts.Catalog.Basic

/-!
# The Stan Store template

The purchase confirmation of a Stan Store: its document as static text and slots, and the
names of the slots in ascending order.
-/

namespace Receipts.Catalog

/-- The document of the Stan Store template. -/
def stanStoreSegments : List Segment :=
  [
    .text "<!DOCTYPE html>\n",
    .text "<html>\n",
    .text "<head>\n",
    .text "    <meta charset=\"utf-8\">\n",
    .text "    <meta name=\"viewport\" content=\"width=device-width, initial-scale=1.0\">\n",
    .text "    <title>Purchase confirmed</title>\n",
    .text "    <style>\n",
    .text "        body \x7b font-family: 'Plus Jakarta Sans', Arial, sans-serif; margin: 0; padding: 24px; background-color: #eef0ff; color: #131f60; \x7d\n",
    .text "        .container \x7b max-width: 600px; margin: 0 auto; background: #ffffff; border-radius: 12px; overflow: hidden; \x7d\n",
    .text "        .banner \x7b background-color: #5383ff; padding: 24px; text-align: center; \x7d\n",
    .text "        .banner img \x7b width: 72px; height: 72px; border-radius: 50%; border: 3px solid #ffffff; \x7d\n",
    .text "        .content \x7b padding: 28px; \x7d\n",
    .text "        h1 \x7b font-size: 20px; margin: 0 0 12px; \x7d\n",
    .text "        .product \x7b width: 100%; border-collapse: collapse; margin: 20px 0; \x7d\n",
    .text "        .product td \x7b padding: 10px 0; vertical-align: middle; \x7d\n",
    .text "        .product img \x7b width: 96px; border-radius: 8px; \x7d\n",
    .text "        .summary \x7b width: 100%; border-collapse: collapse; background: #f7f8ff; border-radius: 8px; \x7d\n",
    .text "        .summary td \x7b padding: 10px 14px; font-size: 14px; \x7d\n",
    .text "        .value \x7b text-align: right; font-weight: 600; \x7d\n",
    .text "        .button \x7b display: inline-block; padding: 12px 22px; background-color: #5383ff; color: #ffffff; text-decoration: none; border-radius: 24px; \x7d\n",
    .text "        .footer \x7b padding: 18px 28px; font-size: 12px; color: #6c74a8; border-top: 1px solid #e3e6fb; \x7d\n",
    .text "    </style>\n",
    .text "</head>\n",
    .text "<body>\n",
    .text "    <div class=\"container\">\n",
    .text "        <div class=\"banner\">\n",
    .text "            <img src=\"",
      .slot "CREATOR_PHOTO_URL",
      .text "\" alt=\"",
      .slot "CREATOR_NAME",
      .text "\">\n",
    .text "        </div>\n",
    .text "        <div class=\"content\">\n",
    .text "            <h1>Hi ", .slot "BUYER_NAME", .text ", your purchase is confirmed</h1>\n",
    .text "            <p>You just bought <strong>",
      .slot "PRODUCT_NAME",
      .text "</strong> from ",
      .slot "CREATOR_NAME",
      .text "'s Stan Store.</p>\n",
    .text "\n",
    .text "            <table class=\"product\" role=\"presentation\">\n",
    .text "                <tr>\n",
    .text "                    <td width=\"110\"><img src=\"",
      .slot "PRODUCT_IMAGE_URL",
      .text "\" alt=\"",
      .slot "PRODUCT_NAME",
      .text "\"></td>\n",
    .text "                    <td>\n",
    .text "                        <strong>", .slot "PRODUCT_NAME", .text "</strong><br>\n",
    .text "                        <a class=\"button\" href=\"",
      .slot "ACCESS_LINK",
      .text "\">Access your purchase</a>\n",
    .text "                    </td>\n",
    .text "                </tr>\n",
    .text "            </table>\n",
    .text "\n",
    .text "            <table class=\"summary\" role=\"presentation\">\n",
    .text "                <tr>\n",
    .text "                    <td>Receipt number</td>\n",
    .text "                    <td class=\"value\">Receipt #", .slot "ORDER_ID", .text "</td>\n",
    .text "                </tr>\n",
    .text "                <tr>\n",
    .text "                    <td>Purchase date</td>\n",
    .text "                    <td class=\"value\">", .slot "PURCHASE_DATE", .text "</td>\n",
    .text "                </tr>\n",
    .text "                <tr>\n",
    .text "                    <td>Amount paid</td>\n",
    .text "                    <td class=\"value\">$", .slot "TOTAL_AMOUNT", .text "</td>\n",
    .text "                </tr>\n",
    .text "                <tr>\n",
    .text "                    <td>Billed to</td>\n",
    .text "                    <td class=\"value\">", .slot "BUYER_EMAIL", .text "</td>\n",
    .text "                </tr>\n",
    .text "            </table>\n",
    .text "        </div>\n",
    .text "        <div class=\"footer\">\n",
    .text "            <p>Need help? Reply to this email or write to <a href=\"mailto:",
      .slot "CREATOR_EMAIL",
      .text "\">",
      .slot "CREATOR_EMAIL",
      .text "</a>.</p>\n",
    .text "            <p>Sold through Stan Store</p>\n",
    .text "        </div>\n",
    .text "    </div>\n",
    .text "</body>\n",
    .text "</html>\n"]

/-- The Stan Store template. -/
def stanStore : PlatformTemplate where
  id := "stanstore"
  name := "Stan Store"
  subject := "Your purchase is confirmed"
  segments := stanStoreSegments
  placeholders :=
    ["ACCESS_LINK", "BUYER_EMAIL", "BUYER_NAME", "CREATOR_EMAIL", "CREATOR_NAME",
     "CREATOR_PHOTO_URL", "ORDER_ID", "PRODUCT_IMAGE_URL", "PRODUCT_NAME", "PURCHASE_DATE",
     "TOTAL_AMOUNT"]

end Receipts.Catalog
